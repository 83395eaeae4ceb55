import ImageSync.Copy.Command

/-!
# How the arguments of the tool are read

The arguments of a copy are options and, last, where from and where to. Which words are options is a
matter of how a tool reads them: a word may stand among the arguments as the value of an option, a
directory or a key, and then it is no option itself, whatever it looks like. So the arguments are
read here as a tool reads them, and what is read are the options that were meant.

## Main definitions

* `ToolOption`: an option with its value, if it takes one.
* `ToolOption.readWords`: the options and the other words among arguments.
* `CopyJob.toolOptions`: the options of a copy.

## Main statements

* `ToolOption.readWords_flatMap_append`: options are read one by one.
* `CopyJob.readWords_arguments`: what the arguments of a copy are read as.
-/

namespace ImageSync

/-! ## How a tool reads its arguments -/

/-- An option of a tool. -/
structure ToolOption where
  name : String
  /-- Its value, if it takes one. -/
  value : Option String := none
deriving DecidableEq, Repr

namespace ToolOption

/-- The words of an option: its name, and its value behind it. -/
def words (o : ToolOption) : List String := o.name :: o.value.toList

/-- What the names of options begin with. -/
def isName (word : String) : Bool := word.toList.head? == some '-'

/-- The options that take a value. -/
def valued : List String := [
  "--src-cert-dir", "--src-authfile", "--src-registry-token",
  "--dest-cert-dir", "--dest-authfile", "--dest-registry-token",
  "--sign-by", "--format"]

/-- The options among words, and the words that belong to none. The word behind an option that takes
a value is its value. -/
def readWords : List String → List ToolOption × List String
  | [] => ([], [])
  | [word] => if isName word then ([⟨word, none⟩], []) else ([], [word])
  | word :: next :: rest =>
    if word ∈ valued then
      let (options, others) := readWords rest
      (⟨word, some next⟩ :: options, others)
    else
      let (options, others) := readWords (next :: rest)
      if isName word then (⟨word, none⟩ :: options, others) else (options, word :: others)

/-- The names of the options that take a value. -/
theorem isName_of_mem_valued {name : String} (h : name ∈ valued) : isName name = true := by
  revert name
  decide +kernel

/-- A word that is no name of an option is read as itself. -/
theorem readWords_cons {word : String} (h : isName word = false) (rest : List String) :
    readWords (word :: rest) = ((readWords rest).1, word :: (readWords rest).2) := by
  have hvalued : word ∉ valued := fun hmem => by simp [isName_of_mem_valued hmem] at h
  cases rest with
  | nil => simp [readWords, h]
  | cons next rest => simp [readWords, h, hvalued]

/-- Whether an option has a value if and only if it takes one. -/
structure WellFormed (o : ToolOption) : Prop where
  isName_name : isName o.name = true
  value_isSome_iff : o.value.isSome ↔ o.name ∈ valued

theorem readWords_words_append {o : ToolOption} (h : o.WellFormed) (rest : List String) :
    readWords (o.words ++ rest) = (o :: (readWords rest).1, (readWords rest).2) := by
  obtain ⟨name, value⟩ := o
  obtain ⟨hname, hvalue⟩ := h
  cases value with
  | some v =>
      have hvalued : name ∈ valued := hvalue.mp rfl
      simp [words, readWords, hvalued]
  | none =>
      have hvalued : name ∉ valued := fun hmem => by simpa using hvalue.mpr hmem
      cases rest with
      | nil => simp [words, readWords, show isName name = true from hname]
      | cons next rest => simp [words, readWords, hvalued, show isName name = true from hname]

/-- Options are read one by one. -/
theorem readWords_flatMap_append {options : List ToolOption} (h : ∀ o ∈ options, o.WellFormed)
    (rest : List String) : readWords (options.flatMap words ++ rest) =
      (options ++ (readWords rest).1, (readWords rest).2) := by
  induction options with
  | nil => rfl
  | cons o options ih =>
      have ho : o.WellFormed := h o (List.mem_cons_self ..)
      have hrest := ih fun o' ho' => h o' (List.mem_cons_of_mem _ ho')
      rw [List.flatMap_cons, List.append_assoc, readWords_words_append ho, hrest]
      rfl

/-- An option with a value, if there is a value. -/
def ofValue (name : String) (value : Option String) : List ToolOption :=
  (value.map fun v => ⟨name, some v⟩).toList

theorem name_of_mem_ofValue {name : String} {value : Option String} {o : ToolOption}
    (h : o ∈ ofValue name value) : o.name = name := by
  cases value with
  | none => simp [ofValue] at h
  | some v => rw [List.mem_singleton.mp h]

theorem wellFormed_ofValue {name : String} (h : name ∈ valued) (value : Option String) :
    ∀ o ∈ ofValue name value, o.WellFormed := by
  cases value with
  | none => simp [ofValue]
  | some v => exact List.forall_mem_singleton.mpr ⟨isName_of_mem_valued h, by simp [h]⟩

/-- An option without a value, if it is asked for. -/
def ofFlag (name : String) (asked : Bool) : List ToolOption :=
  if asked then [⟨name, none⟩] else []

theorem name_of_mem_ofFlag {name : String} {asked : Bool} {o : ToolOption}
    (h : o ∈ ofFlag name asked) : o.name = name := by
  cases asked with
  | true => rw [List.mem_singleton.mp h]
  | false => simp [ofFlag] at h

theorem wellFormed_singleton {name : String} (hname : isName name = true) (h : name ∉ valued) :
    ∀ o ∈ [ToolOption.mk name none], o.WellFormed :=
  List.forall_mem_singleton.mpr ⟨hname, by simp [h]⟩

theorem wellFormed_ofFlag {name : String} (hname : isName name = true) (h : name ∉ valued)
    (asked : Bool) : ∀ o ∈ ofFlag name asked, o.WellFormed := by
  cases asked with
  | true => exact wellFormed_singleton hname h
  | false => simp [ofFlag]

end ToolOption

/-! ## The options of a copy -/

open ToolOption

namespace CopyJob

/-- The option that says what is presented to be let in. -/
def entryOptions (start : String) (a : Access) (authPath : Option String) : List ToolOption :=
  if a.anonymous then [⟨start ++ "-no-creds", none⟩] else ofValue (start ++ "-authfile") authPath

/-- The options that say how one side is connected to. -/
def sideOptions (start : String) (a : Access) (authPath : Option String) : List ToolOption :=
  (verifyArguments start a).map (⟨·, none⟩) ++ ofValue (start ++ "-cert-dir") a.certDir ++
    entryOptions start a authPath ++ ofValue (start ++ "-registry-token") a.token

theorem flatMap_words_sideOptions (start : String) (a : Access) (authPath : Option String) :
    (sideOptions start a authPath).flatMap words = sideArguments start a authPath := by
  have hverify : ((verifyArguments start a).map (ToolOption.mk · none)).flatMap words =
      verifyArguments start a := by
    simp [List.flatMap_map, words]
  simp only [sideOptions, sideArguments, entryOptions, List.flatMap_append, hverify]
  cases a.certDir <;> cases a.token <;> cases a.anonymous <;> cases authPath <;> rfl

theorem wellFormed_sideOptions (side : Side) (a : Access) (authPath : Option String) :
    ∀ o ∈ sideOptions side.optionStart a authPath, o.WellFormed := by
  have hvalued : ∀ tail ∈ ["-cert-dir", "-authfile", "-registry-token"],
      side.optionStart ++ tail ∈ valued := by
    cases side <;> decide +kernel
  have hplain : ∀ tail ∈ ["-tls-verify=false", "-tls-verify=true", "-no-creds"],
      isName (side.optionStart ++ tail) = true ∧ side.optionStart ++ tail ∉ valued := by
    cases side <;> decide +kernel
  have hverify : ∀ o ∈ (verifyArguments side.optionStart a).map (ToolOption.mk · none),
      o.WellFormed := by
    unfold verifyArguments
    split
    · exact wellFormed_singleton (hplain _ (by simp)).1 (hplain _ (by simp)).2
    · exact wellFormed_singleton (hplain _ (by simp)).1 (hplain _ (by simp)).2
    · simp
  have hentry : ∀ o ∈ entryOptions side.optionStart a authPath, o.WellFormed := by
    unfold entryOptions
    split
    · exact wellFormed_singleton (hplain _ (by simp)).1 (hplain _ (by simp)).2
    · exact wellFormed_ofValue (hvalued _ (by simp)) _
  simp only [sideOptions, List.forall_mem_append]
  exact ⟨⟨⟨hverify, wellFormed_ofValue (hvalued _ (by simp)) _⟩, hentry⟩,
    wellFormed_ofValue (hvalued _ (by simp)) _⟩

end CopyJob

/-- The options that say what is asked of a copy. -/
def CopyOptions.toolOptions (o : CopyOptions) : List ToolOption :=
  ofFlag "--remove-signatures" o.removeSignatures ++ ofValue "--sign-by" o.signBy ++
    ofValue "--format" (o.format.map ManifestFormat.name) ++ ofFlag "--all" o.all

theorem CopyOptions.flatMap_words_toolOptions (o : CopyOptions) :
    o.toolOptions.flatMap words = o.arguments := by
  obtain ⟨removeSignatures, signBy, format, all, optimize⟩ := o
  cases removeSignatures <;> cases signBy <;> cases format <;> cases all <;> rfl

theorem CopyOptions.wellFormed_toolOptions (o : CopyOptions) :
    ∀ t ∈ o.toolOptions, t.WellFormed := by
  simp only [toolOptions, List.forall_mem_append]
  exact ⟨⟨⟨wellFormed_ofFlag (by decide +kernel) (by decide +kernel) _,
    wellFormed_ofValue (by decide +kernel) _⟩, wellFormed_ofValue (by decide +kernel) _⟩,
    wellFormed_ofFlag (by decide +kernel) (by decide +kernel) _⟩

namespace CopyJob

/-- The options of a copy whose auth files lie there. -/
def toolOptions (job : CopyJob) (authPath : Side → Option String) : List ToolOption :=
  let side (s : Side) : List ToolOption := sideOptions s.optionStart (job.access s) (authPath s)
  side .source ++ side .destination ++ job.options.toolOptions

theorem arguments_eq (job : CopyJob) (authPath : Side → Option String) :
    job.arguments authPath = "copy" :: ((job.toolOptions authPath).flatMap words ++
      [job.source.text, job.destination.text]) := by
  simp only [arguments, toolOptions, List.flatMap_append, flatMap_words_sideOptions,
    CopyOptions.flatMap_words_toolOptions, List.cons_append]

theorem wellFormed_toolOptions (job : CopyJob) (authPath : Side → Option String) :
    ∀ o ∈ job.toolOptions authPath, o.WellFormed := by
  simp only [toolOptions, List.forall_mem_append]
  exact ⟨⟨wellFormed_sideOptions _ _ _, wellFormed_sideOptions _ _ _⟩,
    job.options.wellFormed_toolOptions⟩

end CopyJob

/-- Where an image lies is no name of an option. -/
theorem Image.isName_text (image : Image) : isName image.text = false := by
  cases image <;> simp [isName, text]

/-- The arguments of a copy are read as its options and, besides what is to be done, where from and
where to. -/
theorem CopyJob.readWords_arguments (job : CopyJob) (authPath : Side → Option String) :
    readWords (job.arguments authPath) =
      (job.toolOptions authPath, ["copy", job.source.text, job.destination.text]) := by
  have hcopy : isName "copy" = false := by decide +kernel
  rw [arguments_eq, readWords_cons hcopy, readWords_flatMap_append (job.wellFormed_toolOptions _),
    readWords_cons job.source.isName_text, readWords_cons job.destination.isName_text]
  simp [readWords]

end ImageSync
