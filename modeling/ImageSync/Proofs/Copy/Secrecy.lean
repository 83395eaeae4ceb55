import ImageSync.Copy.Tool
import ImageSync.Proofs.Copy.Arguments
import ImageSync.Proofs.Copy.Credentials
import ImageSync.Proofs.Registry.Shown

/-!
# What the arguments of the tool tell

Arguments are shown to everybody on the same machine. Those of a copy depend on its credentials only
through whether there are any: then an option of the side names the auth file that they are in, which
is for the host of that side and no other.

## Main definitions

* `CopyJob.withCredentials`: the same copy with other credentials.
* `ToolCall.authFile?`, `AuthFile.hosts?`: the auth file of a side, and the hosts that a file names.
* `ToolCall.Enters`: how a call says with what one side is entered.

## Main statements

* `CopyJob.arguments_withCredentials`: other credentials give the same arguments.
* `CopyJob.enters_call`: which auth files are named, and for which hosts they are.
* `CopyJob.call_hides_credentials`: the arguments do not tell the credentials.
-/

namespace ImageSync

open ToolOption

/-! ## Which auth files are named -/

/-- The names of the options that say what is asked of a copy. -/
def CopyOptions.toolOptionNames : List String :=
  ["--remove-signatures", "--sign-by", "--format", "--all"]

theorem CopyOptions.name_mem_of_mem_toolOptions (o : CopyOptions) {t : ToolOption}
    (h : t ∈ o.toolOptions) : t.name ∈ toolOptionNames := by
  simp only [toolOptions, List.mem_append] at h
  obtain ((h | h) | h) | h := h
  · simp [toolOptionNames, name_of_mem_ofFlag h]
  · simp [toolOptionNames, name_of_mem_ofValue h]
  · simp [toolOptionNames, name_of_mem_ofValue h]
  · simp [toolOptionNames, name_of_mem_ofFlag h]

namespace CopyJob

/-- The ends of the names of options that say what is presented. -/
def entryTails : List String := ["-authfile", "-no-creds"]

theorem name_mem_entryOptions {start : String} {a : Access} {authPath : Option String}
    {o : ToolOption} (h : o ∈ entryOptions start a authPath) :
    ∃ tail ∈ entryTails, o.name = start ++ tail := by
  unfold entryOptions at h
  split at h
  · rw [List.mem_singleton.mp h]
    exact ⟨"-no-creds", by simp [entryTails], rfl⟩
  · exact ⟨"-authfile", by simp [entryTails], name_of_mem_ofValue h⟩

theorem optionStart_append_notMem (side : Side) : ∀ tail ∈ entryTails,
    side.optionStart ++ tail ∉ CopyOptions.toolOptionNames := by
  cases side <;> decide +kernel

/-- The ends of the names of the other options of a side. -/
def otherTails : List String :=
  ["-tls-verify=false", "-tls-verify=true", "-cert-dir", "-registry-token"]

theorem optionStart_append_ne (s side : Side) : ∀ tail ∈ entryTails, ∀ other ∈ otherTails,
    s.optionStart ++ other ≠ side.optionStart ++ tail := by
  cases s <;> cases side <;> decide +kernel

theorem side_eq_of_append_eq (s side : Side) : ∀ tail ∈ entryTails, ∀ other ∈ entryTails,
    s.optionStart ++ other = side.optionStart ++ tail → s = side := by
  cases s <;> cases side <;> decide +kernel

variable {side : Side} {o : ToolOption} {tail : String}

/-- Of the options of a side only one says what is presented, and those of the other side have other
names. -/
theorem mem_sideOptions_iff (s : Side) {a : Access} {authPath : Option String}
    (htail : tail ∈ entryTails) (ho : o.name = side.optionStart ++ tail) :
    o ∈ sideOptions s.optionStart a authPath ↔
      s = side ∧ o ∈ entryOptions s.optionStart a authPath := by
  have hother : ∀ other ∈ otherTails, o.name ≠ s.optionStart ++ other := by
    rw [ho]
    exact fun other h => (optionStart_append_ne s side tail htail other h).symm
  have hverify : o ∉ (verifyArguments s.optionStart a).map (ToolOption.mk · none) := by
    intro hmem
    obtain ⟨word, hword, rfl⟩ := List.mem_map.mp hmem
    unfold verifyArguments at hword
    split at hword
    · exact hother _ (by simp [otherTails]) (List.mem_singleton.mp hword)
    · exact hother _ (by simp [otherTails]) (List.mem_singleton.mp hword)
    · simp at hword
  simp only [sideOptions, List.mem_append]
  constructor
  -- The name tells the option of entry from the others of its side, and the side.
  · rintro (((hmem | hmem) | hmem) | hmem)
    · exact absurd hmem hverify
    · exact absurd (name_of_mem_ofValue hmem) (hother _ (by simp [otherTails]))
    · obtain ⟨other, hentry, hname⟩ := name_mem_entryOptions hmem
      exact ⟨side_eq_of_append_eq s side tail htail other hentry (hname.symm.trans ho), hmem⟩
    · exact absurd (name_of_mem_ofValue hmem) (hother _ (by simp [otherTails]))
  · exact fun h => .inl (.inr h.2)

/-- Only the option with which a side is entered says what is presented there. -/
theorem mem_toolOptions_iff {job : CopyJob} {authPath : Side → Option String}
    (htail : tail ∈ entryTails) (ho : o.name = side.optionStart ++ tail) :
    o ∈ job.toolOptions authPath ↔
      o ∈ entryOptions side.optionStart (job.access side) (authPath side) := by
  have hoptions : o ∉ job.options.toolOptions := by
    intro hmem
    refine absurd (job.options.name_mem_of_mem_toolOptions hmem) ?_
    rw [ho]
    exact optionStart_append_notMem side tail htail
  simp only [toolOptions, List.mem_append, mem_sideOptions_iff _ htail ho, hoptions, or_false]
  cases side <;> simp

end CopyJob

/-! ## Other credentials -/

/-- Whether there are credentials with a name or a password. -/
def Access.hasCredentials (a : Access) : Bool := a.credentials.any fun c => !c.isEmpty

theorem Access.hasCredentials_iff {a : Access} : a.hasCredentials = true ↔
    ∃ c, a.credentials = some c ∧ (c.username ≠ "" ∨ c.password ≠ "") := by
  unfold hasCredentials
  cases a.credentials with
  | none => simp
  | some c => simp [Credentials.isEmpty, Decidable.or_iff_not_imp_left]

theorem Image.reference?_isSome_iff {image : Image} :
    image.reference?.isSome = true ↔ ∃ r, image = .inRegistry r := by
  cases image <;> simp [reference?]

theorem Access.presented_isSome (a : Access) :
    a.presented.isSome = (!a.anonymous && a.hasCredentials) := by
  unfold presented hasCredentials
  cases a.anonymous <;> cases a.credentials <;> simp

namespace CopyJob

/-- An auth file is written for each side that is a registry to which credentials are presented. -/
theorem authFile?_isSome (job : CopyJob) (side : Side) : (job.authFile? side).isSome =
    ((job.image side).reference?.isSome &&
      (!(job.access side).anonymous && (job.access side).hasCredentials)) := by
  rw [← Access.presented_isSome, authFile?]
  cases (job.image side).reference? <;> cases (job.access side).presented <;> rfl

theorem authPaths_eq (job : CopyJob) (place : Side → String) (side : Side) :
    job.authPaths place side = if (job.authFile? side).isSome then some (place side) else none := by
  unfold authPaths
  cases job.authFile? side <;> rfl

/-- The same copy with other credentials. -/
def withCredentials (job : CopyJob) (credentials : Side → Option Credentials) : CopyJob :=
  job.withAccess fun side => { job.access side with credentials := credentials side }

/-- Other credentials give the same arguments, if there are any where there were. -/
theorem arguments_withCredentials {job : CopyJob} {credentials : Side → Option Credentials}
    (h : ∀ side, ((job.withCredentials credentials).access side).hasCredentials =
      (job.access side).hasCredentials) (place : Side → String) :
    (job.withCredentials credentials).arguments
        ((job.withCredentials credentials).authPaths place) =
      job.arguments (job.authPaths place) := by
  have hpaths : (job.withCredentials credentials).authPaths place = job.authPaths place := by
    funext side
    rw [authPaths_eq, authPaths_eq, authFile?_isSome, authFile?_isSome, h side]
    simp only [withCredentials, image_withAccess, access_withAccess]
  rw [hpaths]
  simp only [arguments, withCredentials, access_withAccess]
  rfl

end CopyJob

/-! ## The call of the tool -/

/-- The auth file of one side. -/
def ToolCall.authFile? (call : ToolCall) : Side → Option AuthFile
  | .source => call.sourceAuth
  | .destination => call.destinationAuth

theorem CopyJob.authFile?_call (job : CopyJob) (program : String) (place : Side → String)
    (side : Side) : (job.call program place).authFile? side = job.authFile? side := by
  cases side <;> rfl

/-- The hosts that the text of an auth file names. -/
def AuthFile.hosts? (text : String) : Option (List String) := do
  match (← Json.parse? text).field? "auths" with
  | some (.object hosts) => some (hosts.map Prod.fst)
  | _ => none

theorem AuthFile.hosts?_text (f : AuthFile) : hosts? f.text = some [f.host] := by
  have hjson : Json.parse? f.text = some f.json := (readsBack_json f).parse?_text
  simp [hosts?, hjson, json, Json.field?]

/-- Whether an option of that name is read among the arguments. -/
def ToolCall.HasOption (call : ToolCall) (name : String) : Prop :=
  ∃ o ∈ (readWords call.arguments).1, o.name = name

/-- How a call says with what one side is entered: which auth file is named, when, and for which
host it is. -/
structure ToolCall.Enters (call : ToolCall) (job : CopyJob) (side : Side) (place : String) :
    Prop where
  /-- A file is named for a registry with credentials that may be presented. -/
  hasOption_iff : call.HasOption (side.optionStart ++ "-authfile") ↔
    (∃ r, job.image side = .inRegistry r) ∧ (job.access side).anonymous = false ∧
      ∃ c, (job.access side).credentials = some c ∧ (c.username ≠ "" ∨ c.password ≠ "")
  /-- It lies at the place of this side. -/
  value_eq : ∀ o ∈ (readWords call.arguments).1, o.name = side.optionStart ++ "-authfile" →
    o.value = some place
  /-- None is named where nothing is to be presented. -/
  not_both : call.HasOption (side.optionStart ++ "-authfile") →
    ¬call.HasOption (side.optionStart ++ "-no-creds")
  /-- It is for the host of this side alone. -/
  hosts_eq : call.HasOption (side.optionStart ++ "-authfile") →
    ∃ r file, job.image side = .inRegistry r ∧ call.authFile? side = some file ∧
      AuthFile.hosts? file.text = some [r.host]

namespace CopyJob

theorem readWords_call (job : CopyJob) (program : String) (place : Side → String) :
    readWords (job.call program place).arguments =
      (job.toolOptions (job.authPaths place), ["copy", job.source.text, job.destination.text]) :=
  job.readWords_arguments _

variable {job : CopyJob} {program : String} {place : Side → String} {side : Side}

theorem mem_readWords_call {o : ToolOption} {tail : String} (htail : tail ∈ entryTails)
    (ho : o.name = side.optionStart ++ tail) :
    o ∈ (readWords (job.call program place).arguments).1 ↔
      o ∈ entryOptions side.optionStart (job.access side) (job.authPaths place side) := by
  rw [readWords_call]
  exact mem_toolOptions_iff htail ho

/-- The option that names an auth file is there where there is one, and names its place. -/
theorem mem_readWords_authfile {o : ToolOption}
    (ho : o.name = side.optionStart ++ "-authfile") :
    o ∈ (readWords (job.call program place).arguments).1 ↔
      (job.authFile? side).isSome ∧ o.value = some (place side) := by
  have hne : side.optionStart ++ "-no-creds" ≠ side.optionStart ++ "-authfile" := by
    cases side <;> decide +kernel
  rw [mem_readWords_call (by simp [entryTails]) ho, entryOptions, authPaths_eq]
  obtain ⟨name, value⟩ := o
  subst ho
  cases hanonymous : (job.access side).anonymous with
  | true =>
      have hnone : (job.authFile? side).isSome = false := by
        simp [authFile?_isSome, hanonymous]
      simp [hnone, hne.symm]
  | false => cases (job.authFile? side).isSome <;> simp [ofValue]

theorem hasOption_authfile_iff :
    (job.call program place).HasOption (side.optionStart ++ "-authfile") ↔
      (job.authFile? side).isSome := by
  constructor
  · rintro ⟨o, hmem, ho⟩
    exact ((mem_readWords_authfile ho).mp hmem).1
  · intro h
    exact ⟨⟨_, some (place side)⟩, (mem_readWords_authfile rfl).mpr ⟨h, rfl⟩, rfl⟩

theorem hasOption_noCreds_iff :
    (job.call program place).HasOption (side.optionStart ++ "-no-creds") ↔
      (job.access side).anonymous = true := by
  have hne : side.optionStart ++ "-no-creds" ≠ side.optionStart ++ "-authfile" := by
    cases side <;> decide +kernel
  constructor
  · rintro ⟨o, hmem, ho⟩
    rw [mem_readWords_call (by simp [entryTails]) ho, entryOptions] at hmem
    split at hmem
    next hanonymous => exact hanonymous
    next => exact absurd (ho.symm.trans (name_of_mem_ofValue hmem)) hne
  · intro hanonymous
    let o : ToolOption := ⟨side.optionStart ++ "-no-creds", none⟩
    have ho : o.name = side.optionStart ++ "-no-creds" := rfl
    refine ⟨o, (mem_readWords_call (by simp [entryTails]) ho).mpr ?_, ho⟩
    rw [entryOptions, if_pos hanonymous]
    exact List.mem_cons_self ..

theorem enters_call (job : CopyJob) (program : String) (place : Side → String) (side : Side) :
    (job.call program place).Enters job side (place side) where
  hasOption_iff := by
    rw [hasOption_authfile_iff, authFile?_isSome]
    simp [Image.reference?_isSome_iff, Access.hasCredentials_iff]
  value_eq o hmem ho := ((mem_readWords_authfile ho).mp hmem).2
  not_both hauth hnone := by
    rw [hasOption_authfile_iff, authFile?_isSome, hasOption_noCreds_iff.mp hnone] at hauth
    simp at hauth
  hosts_eq hauth := by
    obtain ⟨file, hfile⟩ := Option.isSome_iff_exists.mp (hasOption_authfile_iff.mp hauth)
    obtain ⟨r, c, hr, -, hfileEq⟩ := authFile?_eq_some_iff.mp hfile
    have hhosts : AuthFile.hosts? file.text = some [r.host] := by
      rw [file.hosts?_text, hfileEq]
    exact ⟨r, file, hr, (job.authFile?_call program place side).trans hfile, hhosts⟩

/-- Credentials are not shown by the arguments of a tool. Copies that differ only in the credentials
of their sides have the same arguments for the same places of the auth files, if each side has
credentials in both or in none. An auth file is named for a side if and only if the side is a
registry and has credentials that may be presented, never where none are to be, and the file is for
the host of that registry alone. The last two arguments are where from and where to, and neither can
be taken for an option. -/
theorem call_hides_credentials :
    (∀ (job : CopyJob) (credentials : Side → Option Credentials),
      (∀ side, ((job.withCredentials credentials).access side).hasCredentials =
        (job.access side).hasCredentials) →
      ∀ program place, ((job.withCredentials credentials).call program place).arguments =
        (job.call program place).arguments) ∧
    ∀ (job : CopyJob) (program : String) (place : Side → String),
      (∀ side, (job.call program place).Enters job side (place side)) ∧
      (readWords (job.call program place).arguments).2 =
        ["copy", job.source.text, job.destination.text] ∧
      (∃ front, (job.call program place).arguments =
        front ++ [job.source.text, job.destination.text]) ∧
      ∀ side, (job.image side).text.toList.head? ≠ some '-' := by
  refine ⟨fun job credentials h program place => arguments_withCredentials h place,
    fun job program place => ⟨job.enters_call program place, ?_, ?_, fun side => ?_⟩⟩
  · rw [readWords_call]
  · exact ⟨"copy" :: (job.toolOptions (job.authPaths place)).flatMap words,
      job.arguments_eq (job.authPaths place)⟩
  · have hname := (job.image side).isName_text
    simpa [isName] using hname

end CopyJob

namespace SignedIn

/-- A side with credentials, and certificates in a directory with the name of an option. -/
def access : Access := { certDir := some "--src-no-creds", credentials := some ⟨"bob", "p:w"⟩ }

/-- Credentials of somebody else. -/
def others : Side → Option Credentials
  | .source => some ⟨"eve", "secret"⟩
  | .destination => none

/-- Where the auth files are written. -/
def place (side : Side) : String := "/run/" ++ side.name ++ ".json"

end SignedIn

open SignedIn in
/-- The arguments are the same for somebody else, and a directory is no option. -/
theorem call_hides_credentials_signedIn :
    (∀ side, (((job access).withCredentials others).access side).hasCredentials =
      ((job access).access side).hasCredentials) ∧
    (((job access).withCredentials others).call defaultCopyTool place).arguments =
      ((job access).call defaultCopyTool place).arguments ∧
    ((job access).call defaultCopyTool place).Enters (job access) .source (place .source) := by
  obtain ⟨hsame, hcall⟩ := CopyJob.call_hides_credentials
  have hothers : ∀ side, (((job access).withCredentials others).access side).hasCredentials =
      ((job access).access side).hasCredentials := by
    rintro (_ | _) <;> decide +kernel
  exact ⟨hothers, hsame _ _ hothers defaultCopyTool place,
    (hcall (job access) defaultCopyTool place).1 .source⟩

open SignedIn in
example : ((job access).call defaultCopyTool place).arguments =
    ["copy", "--src-cert-dir", "--src-no-creds", "--src-authfile", "/run/source.json",
      "docker://quay.io/app:v1", "dir:/mirror/app:v1"] := by
  decide +kernel

end ImageSync
