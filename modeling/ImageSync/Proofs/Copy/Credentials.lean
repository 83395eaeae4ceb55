import ImageSync.CommandLine.Settings
import ImageSync.Copy.AuthFile
import ImageSync.Proofs.Json.Printed

/-!
# The way of credentials to the tool

Credentials are typed as `name:password`, or stand in a list of images, and go to the tool in an
auth file: as one text with a colon again, in base 64, in JSON. What was encoded and what was printed
is read back, so the file is read as the text before and after the first colon of the text in it.
Those are name and password unless there is a colon in the name, and in a typed name there is none.

## Main definitions

* `Credentials.joined`: user name and password with the colon between them.
* `Credentials.GivenBy`: what a typed text says, with a password from elsewhere if it has none.

## Main statements

* `AuthFile.parse?_text`, `CopyJob.exists_authFile`: what an auth file is read as.
* `CommandLine.SideFlags.access_credentials`: what is typed is what is presented.
* `credentials_reach_tool`: typed credentials are read from the auth file as they were typed, and
  other credentials as they are if and only if there is no colon in the name.
-/

namespace ImageSync

open Text

/-! ## Names and passwords with a colon between them -/

namespace Credentials

/-- User name and password with the colon between them. -/
def joined (c : Credentials) : List Char := c.username.toList ++ ':' :: c.password.toList

/-- Joined credentials come apart at the first colon, wherever they were joined. -/
theorem splitFirst_joined (c : Credentials) : ∃ read : Credentials,
    splitFirst ':' c.joined = some (read.username.toList, read.password.toList) ∧
      read.joined = c.joined ∧ ':' ∉ read.username.toList := by
  cases hsplit : splitFirst ':' c.joined with
  | none =>
      have hcolon : ':' ∈ c.joined := List.mem_append_right _ (List.mem_cons_self ..)
      exact absurd hcolon (splitFirst_eq_none_iff.mp hsplit)
  | some parts =>
      obtain ⟨username, password⟩ := parts
      obtain ⟨hjoined, hcolon⟩ := eq_append_of_splitFirst hsplit
      refine ⟨⟨String.ofList username, String.ofList password⟩, ?_, ?_, ?_⟩
      · simp only [String.toList_ofList]
      · simp only [joined, String.toList_ofList] at hjoined ⊢
        exact hjoined.symm
      · simpa using hcolon

/-- Where the name has no colon, joining loses nothing. -/
theorem eq_iff_of_joined {c read : Credentials} (hjoined : read.joined = c.joined)
    (hread : ':' ∉ read.username.toList) : read = c ↔ ':' ∉ c.username.toList := by
  refine ⟨fun h => h ▸ hread, fun hc => ?_⟩
  have hsplit := splitFirst_append_cons read.password.toList hread
  have hsplit' := splitFirst_append_cons c.password.toList hc
  rw [show read.username.toList ++ ':' :: read.password.toList = _ from hjoined, joined, hsplit']
    at hsplit
  obtain ⟨hname, hpassword⟩ := Prod.mk.inj (Option.some.inj hsplit)
  obtain ⟨username, password⟩ := c
  obtain ⟨username', password'⟩ := read
  cases String.toList_inj.mp hname
  cases String.toList_inj.mp hpassword
  rfl

end Credentials

/-! ## Auth files -/

namespace AuthFile

theorem decode?_encoded (c : Credentials) : ∃ read : Credentials,
    decode? (encoded c) = some read ∧ read.joined = c.joined ∧ ':' ∉ read.username.toList := by
  obtain ⟨read, hsplit, hread⟩ := c.splitFirst_joined
  refine ⟨read, ?_, hread⟩
  have hbytes : Base64.decode? (encoded c).toList = some (Utf8.encode c.joined) := by
    rw [encoded, String.toList_ofList]
    exact Base64.decode?_encode _
  simp only [decode?, hbytes, Utf8.decode?_encode, hsplit, Option.bind_eq_bind, Option.bind_some,
    String.ofList_toList]

theorem readsBack_json (f : AuthFile) : f.json.ReadsBack := by
  refine Json.readsBack_object (List.forall_mem_singleton.mpr ?_)
  refine Json.readsBack_object (List.forall_mem_singleton.mpr ?_)
  refine Json.readsBack_object (List.forall_mem_singleton.mpr ?_)
  exact Json.readsBack_string _

/-- A file is read as one with the same host, and with the credentials that come apart at the first
colon of those in it. -/
theorem parse?_text (f : AuthFile) : ∃ read : Credentials, parse? f.text = some ⟨f.host, read⟩ ∧
    read.joined = f.credentials.joined ∧ ':' ∉ read.username.toList := by
  obtain ⟨read, hdecode, hread⟩ := decode?_encoded f.credentials
  refine ⟨read, ?_, hread⟩
  have hjson : Json.parse? f.text = some f.json := (readsBack_json f).parse?_text
  rw [parse?, hjson, Option.bind_some, json, ofJson?, hdecode]
  rfl

end AuthFile

/-- There is a file for a side that is a registry to which credentials are presented. -/
theorem CopyJob.authFile?_eq_some_iff {job : CopyJob} {side : Side} {file : AuthFile} :
    job.authFile? side = some file ↔ ∃ r c, job.image side = .inRegistry r ∧
      (job.access side).presented = some c ∧ file = ⟨r.host, c⟩ := by
  unfold authFile?
  cases job.image side with
  | inFolder p => simp [Image.reference?]
  | inRegistry r => cases (job.access side).presented <;> simp [eq_comm]

/-- For a registry to which credentials are presented there is a file with its host, and it is read
with the same credentials if and only if there is no colon in the name. -/
theorem CopyJob.exists_authFile {job : CopyJob} {side : Side} {r : Reference} {c : Credentials}
    (hr : job.image side = .inRegistry r) (hc : (job.access side).presented = some c) :
    ∃ file read, job.authFile? side = some file ∧ AuthFile.parse? file.text = some ⟨r.host, read⟩ ∧
      (read = c ↔ ':' ∉ c.username.toList) := by
  obtain ⟨read, hparse, hjoined, hcolon⟩ := AuthFile.parse?_text ⟨r.host, c⟩
  exact ⟨_, read, authFile?_eq_some_iff.mpr ⟨r, c, hr, hc, rfl⟩, hparse,
    Credentials.eq_iff_of_joined hjoined hcolon⟩

theorem Access.presented_eq_some {a : Access} {c : Credentials} (ha : a.anonymous = false)
    (hcredentials : a.credentials = some c) (hc : c.isEmpty = false) : a.presented = some c := by
  simp [presented, ha, hcredentials, hc]

/-! ## Typed credentials -/

namespace Credentials

/-- Whether credentials are what a typed text says: a name, and behind the first colon a password.
Where there is none, or an empty one, a password from elsewhere takes its place. -/
structure GivenBy (text : String) (elsewhere : Option String) (c : Credentials) : Prop where
  username_ne_empty : c.username ≠ ""
  colon_notMem : ':' ∉ c.username.toList
  exists_password : ∃ password, (text = c.username ++ ":" ++ password ∨
    text = c.username ∧ password = "") ∧
      c.password = if password = "" then elsewhere.getD "" else password

theorem GivenBy.isEmpty_eq_false {text : String} {elsewhere : Option String} {c : Credentials}
    (h : c.GivenBy text elsewhere) : c.isEmpty = false := by
  simp [isEmpty, h.username_ne_empty]

/-- A text that is read spells a name without a colon and a password. -/
theorem of_parse?_eq_some {text : String} {c : Credentials} (h : parse? text = some c) :
    c.username ≠ "" ∧ ':' ∉ c.username.toList ∧
      (text = c.username ++ ":" ++ c.password ∨ text = c.username ∧ c.password = "") := by
  cases hsplit : splitFirst ':' text.toList with
  | none =>
      simp only [parse?, hsplit, Option.ite_none_left_eq_some, Option.some.injEq] at h
      obtain ⟨hempty, rfl⟩ := h
      exact ⟨by simpa using hempty, splitFirst_eq_none_iff.mp hsplit, .inr ⟨rfl, rfl⟩⟩
  | some parts =>
      obtain ⟨username, password⟩ := parts
      obtain ⟨htext, hcolon⟩ := eq_append_of_splitFirst hsplit
      cases username with
      | nil => simp [parse?, hsplit] at h
      | cons x username =>
          simp only [parse?, hsplit, Option.some.injEq] at h
          subst h
          refine ⟨by simp, by simpa using hcolon, .inl ?_⟩
          apply String.toList_inj.mp
          simp [htext]

end Credentials

namespace CommandLine.SideFlags

variable {f : SideFlags} {text : String}

theorem readCredentials_eq (hf : f.credentials = some text)
    (htext : (Credentials.parse? text).isSome) :
    ∃ c, f.readCredentials = .ok (some c) ∧ c.GivenBy text f.password := by
  obtain ⟨c, hc⟩ := Option.isSome_iff_exists.mp htext
  obtain ⟨hname, hcolon, hspelled⟩ := Credentials.of_parse?_eq_some hc
  by_cases hpassword : c.password = ""
  · refine ⟨{ c with password := f.password.getD "" }, ?_, hname, hcolon, "", ?_, rfl⟩
    · simp [readCredentials, hf, hc, hpassword]
    · simpa [hpassword] using hspelled
  · refine ⟨c, ?_, hname, hcolon, c.password, hspelled, (if_neg hpassword).symm⟩
    simp [readCredentials, hf, hc, hpassword]

/-- A side that may present credentials presents those that were typed. -/
theorem access_credentials (hf : f.credentials = some text)
    (htext : (Credentials.parse? text).isSome) (hanonymous : f.anonymous = false) :
    ∃ a c, f.access = .ok a ∧ a.anonymous = false ∧ a.credentials = some c ∧
      c.GivenBy text f.password := by
  obtain ⟨c, hread, hgiven⟩ := readCredentials_eq hf htext
  have haccess : ∃ a, f.access = .ok a ∧ a.anonymous = false ∧ a.credentials = some c := by
    simp only [access, hread, hanonymous]
    exact ⟨_, rfl, rfl, rfl⟩
  obtain ⟨a, haccess, ha, hcredentials⟩ := haccess
  exact ⟨a, c, haccess, ha, hcredentials, hgiven⟩

end CommandLine.SideFlags

/-! ## From the command line to the tool -/

namespace SignedIn

/-- A name without a password, which comes from elsewhere. -/
def flags : CommandLine.SideFlags := { credentials := some "bob:", password := some "p:w" }

/-- A name that cannot be told from its password in an auth file. -/
def unclear : Credentials := ⟨"bob:p", "w"⟩

/-- An image in a registry. -/
def image : Reference := ⟨"quay.io", "app", some "v1", none⟩

/-- A copy of it. -/
def job (access : Access) : CopyJob where
  source := .inRegistry image
  destination := .inFolder (Path.ofString "/mirror/app:v1")
  sourceAccess := access
  destinationAccess := {}
  options := {}

end SignedIn

/-- Credentials that are typed for a side which may present them are a name, the text before the
first colon, and a password, the text behind it or, if there is none, one from elsewhere. For every
copy from or to a registry, an auth file is written that is read as the host of the registry, that
name and that password. Other credentials with a name or a password are read from the auth file as
they are if and only if there is no colon in the name. -/
theorem credentials_reach_tool :
    (∀ (f : CommandLine.SideFlags) (text : String), f.credentials = some text →
      (Credentials.parse? text).isSome → f.anonymous = false →
      ∃ a c, f.access = .ok a ∧ a.anonymous = false ∧ a.credentials = some c ∧
        c.GivenBy text f.password ∧
        ∀ (job : CopyJob) (side : Side) (r : Reference), job.access side = a →
          job.image side = .inRegistry r →
          ∃ file, job.authFile? side = some file ∧ AuthFile.parse? file.text = some ⟨r.host, c⟩) ∧
    ∀ (job : CopyJob) (side : Side) (r : Reference) (c : Credentials),
      (job.access side).anonymous = false → (job.access side).credentials = some c →
      c.isEmpty = false → job.image side = .inRegistry r →
      ∃ file read, job.authFile? side = some file ∧
        AuthFile.parse? file.text = some ⟨r.host, read⟩ ∧ (read = c ↔ ':' ∉ c.username.toList) := by
  refine ⟨fun f text hf htext hanonymous => ?_, fun job side r c hanonymous hcredentials hc hr =>
    CopyJob.exists_authFile hr (Access.presented_eq_some hanonymous hcredentials hc)⟩
  obtain ⟨a, c, haccess, ha, hcredentials, hgiven⟩ :=
    CommandLine.SideFlags.access_credentials hf htext hanonymous
  refine ⟨a, c, haccess, ha, hcredentials, hgiven, fun job side r hjob hr => ?_⟩
  have hpresented : a.presented = some c :=
    Access.presented_eq_some ha hcredentials hgiven.isEmpty_eq_false
  obtain ⟨file, read, hauth, hparse, hread⟩ := CopyJob.exists_authFile hr (hjob ▸ hpresented)
  rw [hread.mpr hgiven.colon_notMem] at hparse
  exact ⟨file, hauth, hparse⟩

open SignedIn in
/-- A password from elsewhere reaches the tool with its colon, a colon in a name does not. -/
theorem credentials_reach_tool_colons :
    (flags.credentials = some "bob:" ∧ (Credentials.parse? "bob:").isSome ∧
      flags.anonymous = false ∧ unclear.isEmpty = false) ∧
    (∃ a c, flags.access = .ok a ∧ c.GivenBy "bob:" (some "p:w") ∧
      ∃ file, (job a).authFile? .source = some file ∧
        AuthFile.parse? file.text = some ⟨"quay.io", c⟩) ∧
    ∃ file read, (job { credentials := some unclear }).authFile? .source = some file ∧
      AuthFile.parse? file.text = some ⟨"quay.io", read⟩ ∧
        (read = unclear ↔ ':' ∉ unclear.username.toList) := by
  obtain ⟨htyped, hany⟩ := credentials_reach_tool
  have hread : (Credentials.parse? "bob:").isSome := by decide +kernel
  have hfull : unclear.isEmpty = false := by decide +kernel
  obtain ⟨a, c, haccess, -, -, hgiven, hfile⟩ := htyped flags "bob:" rfl hread rfl
  exact ⟨⟨rfl, hread, rfl, hfull⟩, ⟨a, c, haccess, hgiven, hfile (job a) .source image rfl rfl⟩,
    hany (job { credentials := some unclear }) .source image unclear rfl rfl hfull rfl⟩

/-- What is read is cut at the first colon. -/
example : AuthFile.parse? (AuthFile.mk "quay.io" SignedIn.unclear).text =
    some ⟨"quay.io", ⟨"bob", "p:w"⟩⟩ := by
  decide +kernel

end ImageSync
