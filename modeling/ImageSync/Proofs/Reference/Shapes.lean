import ImageSync.Proofs.Reference.Grammar

/-!
# The shapes of the parts of a reference

The grammar of hosts, paths, tags and digests, said without a reader: which pieces a part is made of
and in what order. A part is recognised exactly if it has its shape.

## Main definitions

* `HostShape`, `PathShape`, `TagShape`, `DigestShape`: the shapes of the parts.
* `ComponentShape`: runs of letters and digits with separators between.

## Main statements

* `isHost_iff`, `isPath_iff`, `isTag_iff`, `Digest.parse_eq_ok_iff`: a part is recognised exactly if
  it has its shape.
-/

namespace ImageSync.Reference

open Text

/-! ## Shapes -/

/-- Letters, digits and inner hyphens. -/
structure LabelShape (cs : List Char) : Prop where
  ne_nil : cs ≠ []
  alphanum_or_hyphen : ∀ c ∈ cs, c.isAlphanum = true ∨ c = '-'
  head_ne : cs.head? ≠ some '-'
  last_ne : cs.getLast? ≠ some '-'

/-- Labels joined by dots, with an optional number after a colon. -/
inductive HostShape : List Char → Prop
  | name {labels : List (List Char)} (hne : labels ≠ []) (h : ∀ l ∈ labels, LabelShape l) :
      HostShape (joinWith '.' labels)
  | numbered {labels : List (List Char)} {digits : List Char} (hne : labels ≠ [])
      (h : ∀ l ∈ labels, LabelShape l) (hdigits : digits ≠ [])
      (hnumber : ∀ c ∈ digits, c.isDigit = true) : HostShape (joinWith '.' labels ++ ':' :: digits)

/-- What may stand between two runs of a path component. -/
inductive Separates : List Char → Prop
  | dot : Separates ['.']
  | underscore : Separates ['_']
  | twoUnderscores : Separates ['_', '_']
  | hyphens (n : Nat) : Separates (List.replicate (n + 1) '-')

/-- Runs of lower case letters and digits with separators between. -/
inductive ComponentShape : List Char → Prop
  | run {cs : List Char} (hne : cs ≠ []) (h : ∀ c ∈ cs, isLowerAlnum c = true) : ComponentShape cs
  | more {cs separator rest : List Char} (hne : cs ≠ []) (h : ∀ c ∈ cs, isLowerAlnum c = true)
      (hseparator : Separates separator) (hrest : ComponentShape rest) :
      ComponentShape (cs ++ (separator ++ rest))

/-- Components joined by slashes. -/
def PathShape (cs : List Char) : Prop :=
  ∃ components ≠ [], (∀ component ∈ components, ComponentShape component) ∧
    cs = joinWith '/' components

/-- A word character followed by at most 127 word characters, dots or hyphens. -/
def TagShape (cs : List Char) : Prop :=
  ∃ first rest, cs = first :: rest ∧ isWord first = true ∧ rest.length ≤ 127 ∧
    ∀ c ∈ rest, isWord c = true ∨ c = '.' ∨ c = '-'

/-- A known algorithm with a value of its length in lower case hexadecimal digits. -/
def DigestShape (d : Digest) : Prop :=
  (d.algorithm, d.hex.length) ∈ [("sha256", 64), ("sha384", 96), ("sha512", 128)] ∧
    ∀ c ∈ d.hex.toList, isLowerHex c = true

/-! ## Components -/

namespace ComponentState

/-- Behind a first letter or digit, what is still to come of a component: the rest of the run, and
perhaps a separator with another component. -/
def Rest (cs : List Char) : Prop :=
  (∀ c ∈ cs, isLowerAlnum c = true) ∨
    ∃ run separator rest, cs = run ++ (separator ++ rest) ∧
      (∀ c ∈ run, isLowerAlnum c = true) ∧ Separates separator ∧ ComponentShape rest

theorem Rest.componentShape {c : Char} {cs : List Char} (hc : isLowerAlnum c = true) (h : Rest cs) :
    ComponentShape (c :: cs) := by
  rcases h with h | ⟨run, separator, rest, rfl, hrun, hseparator, hrest⟩
  · exact .run (by simp) (List.forall_mem_cons.2 ⟨hc, h⟩)
  · have hrun : ∀ d ∈ c :: run, isLowerAlnum d = true := List.forall_mem_cons.2 ⟨hc, hrun⟩
    exact .more (List.cons_ne_nil c run) hrun hseparator hrest

theorem Rest.cons {c : Char} {cs : List Char} (hc : isLowerAlnum c = true) (h : Rest cs) :
    Rest (c :: cs) := by
  rcases h with h | ⟨run, separator, rest, rfl, hrun, hseparator, hrest⟩
  · exact .inl (List.forall_mem_cons.2 ⟨hc, h⟩)
  · exact .inr ⟨c :: run, separator, rest, rfl, List.forall_mem_cons.2 ⟨hc, hrun⟩, hseparator, hrest⟩

theorem Rest.of_separates {separator rest : List Char} (hseparator : Separates separator)
    (hrest : ComponentShape rest) : Rest (separator ++ rest) :=
  .inr ⟨[], separator, rest, rfl, by simp, hseparator, hrest⟩

/-- What leads from a state to the end of a component. -/
def Leads : ComponentState → List Char → Prop
  | run, cs => Rest cs
  | underscore, cs => ComponentShape cs ∨ ∃ rest, cs = '_' :: rest ∧ ComponentShape rest
  | hyphens, cs => ∃ n rest, cs = List.replicate n '-' ++ rest ∧ ComponentShape rest
  | _, cs => ComponentShape cs

/-- A letter or a digit may stand in every state and leads into a run. -/
theorem Leads.of_rest {c : Char} {cs : List Char} (hc : isLowerAlnum c = true) (h : Rest cs)
    (s : ComponentState) : s.Leads (c :: cs) := by
  have hshape := h.componentShape hc
  cases s with
  | run => exact h.cons hc
  | underscore => exact .inl hshape
  | hyphens => exact ⟨0, c :: cs, rfl, hshape⟩
  | start => exact hshape
  | dot => exact hshape
  | twoUnderscores => exact hshape

/-- The ways from one state to the next. -/
theorem of_next {s s' : ComponentState} {c : Char} (h : s.next c = some s') :
    (isLowerAlnum c = true ∧ s' = run) ∨
    (s = run ∧ (c = '.' ∧ s' = dot ∨ c = '_' ∧ s' = underscore ∨ c = '-' ∧ s' = hyphens)) ∨
    (s = underscore ∧ c = '_' ∧ s' = twoUnderscores) ∨ (s = hyphens ∧ c = '-' ∧ s' = hyphens) := by
  by_cases hc : isLowerAlnum c = true
  · rw [next_of_isLowerAlnum hc] at h
    exact .inl ⟨hc, (Option.some.inj h).symm⟩
  · cases s <;> grind [next]

/-- Only what leads to the end of a component is accepted. -/
theorem leads_of_accepts {cs : List Char} {s : ComponentState} (h : s.accepts cs = true) :
    s.Leads cs := by
  induction cs generalizing s with
  | nil =>
      obtain rfl : s = run := by simpa [accepts] using h
      exact .inl (by simp)
  | cons c cs ih =>
      rw [accepts] at h
      cases hnext : s.next c with
      | none => simp [hnext] at h
      | some s' =>
          rw [hnext] at h
          have hleads := ih h
          rcases of_next hnext with ⟨hc, rfl⟩ | ⟨rfl, hseparator⟩ | ⟨rfl, rfl, rfl⟩ | ⟨rfl, rfl, rfl⟩
          · exact .of_rest hc hleads s
          · -- A separator begins here; with underscores and hyphens it may go on.
            rcases hseparator with ⟨rfl, rfl⟩ | ⟨rfl, rfl⟩ | ⟨rfl, rfl⟩
            · exact .of_separates .dot hleads
            · rcases hleads with hrest | ⟨rest, rfl, hrest⟩
              · exact .of_separates .underscore hrest
              · exact .of_separates .twoUnderscores hrest
            · obtain ⟨n, rest, rfl, hrest⟩ := hleads
              exact .of_separates (.hyphens n) hrest
          · exact .inr ⟨cs, rfl, hleads⟩
          · obtain ⟨n, rest, rfl, hrest⟩ := hleads
            exact ⟨n + 1, rest, rfl, hrest⟩

/-- A run of letters and digits is read to its end in every state. -/
theorem accepts_append_run {cs : List Char} (hne : cs ≠ [])
    (h : ∀ c ∈ cs, isLowerAlnum c = true) (s : ComponentState) (rest : List Char) :
    s.accepts (cs ++ rest) = run.accepts rest := by
  induction cs generalizing s with
  | nil => exact absurd rfl hne
  | cons c cs ih =>
      obtain ⟨hc, hcs⟩ := List.forall_mem_cons.1 h
      rw [List.cons_append, accepts, next_of_isLowerAlnum hc]
      cases cs with
      | nil => rfl
      | cons d cs => exact ih (List.cons_ne_nil d cs) hcs run

theorem accepts_replicate_hyphen (n : Nat) (cs : List Char) :
    hyphens.accepts (List.replicate n '-' ++ cs) = hyphens.accepts cs := by
  induction n with
  | zero => rfl
  | succ n ih => exact ih

/-- So is a separator behind a run. -/
theorem exists_accepts_separator {separator : List Char} (h : Separates separator) :
    ∃ s : ComponentState, ∀ cs, run.accepts (separator ++ cs) = s.accepts cs := by
  cases h with
  | dot => exact ⟨dot, fun _ => rfl⟩
  | underscore => exact ⟨underscore, fun _ => rfl⟩
  | twoUnderscores => exact ⟨twoUnderscores, fun _ => rfl⟩
  | hyphens n => exact ⟨hyphens, accepts_replicate_hyphen n⟩

end ComponentState

/-- A component may begin wherever a reader stands, since it begins with a letter or a digit. -/
theorem ComponentShape.accepts {cs : List Char} (h : ComponentShape cs) (s : ComponentState) :
    s.accepts cs = true := by
  induction h generalizing s with
  | run hne h => simpa [ComponentState.accepts] using ComponentState.accepts_append_run hne h s []
  | more hne h hseparator hrest ih =>
      obtain ⟨s', haccepts⟩ := ComponentState.exists_accepts_separator hseparator
      rw [ComponentState.accepts_append_run hne h, haccepts]
      exact ih s'

theorem isComponent_iff {cs : List Char} : isComponent cs = true ↔ ComponentShape cs :=
  ⟨ComponentState.leads_of_accepts, fun h => h.accepts .start⟩

/-! ## Paths -/

theorem isPath_iff {cs : List Char} : isPath cs = true ↔ PathShape cs := by
  constructor
  · intro h
    refine ⟨splitOn '/' cs, splitOn_ne_nil '/' cs, fun component hc => ?_,
      (joinWith_splitOn '/' cs).symm⟩
    exact isComponent_iff.1 (List.all_eq_true.1 h component hc)
  · rintro ⟨components, hne, hshape, rfl⟩
    have hvalid : ∀ component ∈ components, isComponent component = true := fun component hc =>
      isComponent_iff.2 (hshape component hc)
    have hslash : ∀ component ∈ components, '/' ∉ component := fun component hc hmem =>
      absurd (ComponentState.isComponentChar_of_accepts (hvalid component hc) _ hmem) (by decide)
    rw [isPath, splitOn_joinWith hne hslash]
    exact List.all_eq_true.2 hvalid

/-! ## Hosts -/

theorem isLabel_iff {cs : List Char} : isLabel cs = true ↔ LabelShape cs := by
  have halnum : ∀ c : Char, c.isAlphanum = true → c ≠ '-' := by
    rintro c hc rfl
    exact absurd hc (by decide)
  simp only [isLabel, Bool.and_eq_true, List.all_eq_true, Bool.or_eq_true, beq_iff_eq]
  constructor
  · rintro ⟨⟨hall, hhead⟩, hlast⟩
    obtain ⟨first, hfirst, hfirst'⟩ := (Option.any_eq_true _ _).1 hhead
    obtain ⟨last, hlast, hlast'⟩ := (Option.any_eq_true _ _).1 hlast
    refine ⟨fun hnil => by simp [hnil] at hfirst, hall, fun h => ?_, fun h => ?_⟩
    · exact halnum first hfirst' (Option.some.inj (hfirst.symm.trans h))
    · exact halnum last hlast' (Option.some.inj (hlast.symm.trans h))
  · intro h
    have hend : ∀ c : Char, c ∈ cs → some c ≠ some '-' → c.isAlphanum = true := fun c hc hne =>
      (h.alphanum_or_hyphen c hc).resolve_right fun hyphen => hne (congrArg some hyphen)
    refine ⟨⟨h.alphanum_or_hyphen, (Option.any_eq_true _ _).2 ?_⟩, (Option.any_eq_true _ _).2 ?_⟩
    · have hhead := List.head?_eq_some_head h.ne_nil
      exact ⟨_, hhead, hend _ (List.head_mem h.ne_nil) (hhead ▸ h.head_ne)⟩
    · have hlast := List.getLast?_eq_some_getLast h.ne_nil
      exact ⟨_, hlast, hend _ (List.getLast_mem h.ne_nil) (hlast ▸ h.last_ne)⟩

theorem isHostName_iff {cs : List Char} : isHostName cs = true ↔
    ∃ labels ≠ [], (∀ l ∈ labels, LabelShape l) ∧ cs = joinWith '.' labels := by
  constructor
  · intro h
    refine ⟨splitOn '.' cs, splitOn_ne_nil '.' cs, fun l hl => ?_, (joinWith_splitOn '.' cs).symm⟩
    exact isLabel_iff.1 (List.all_eq_true.1 h l hl)
  · rintro ⟨labels, hne, hshape, rfl⟩
    have hdot : ∀ l ∈ labels, '.' ∉ l := fun l hl hmem =>
      absurd ((hshape l hl).alphanum_or_hyphen _ hmem) (by decide)
    rw [isHostName, splitOn_joinWith hne hdot]
    exact List.all_eq_true.2 fun l hl => isLabel_iff.2 (hshape l hl)

theorem colon_notMem_of_isHostName {cs : List Char} (h : isHostName cs = true) : ':' ∉ cs := by
  intro hmem
  rcases mem_splitOn_or_eq (c := '.') hmem with hdot | ⟨l, hl, hmem⟩
  · exact absurd hdot (by decide)
  · have hshape := isLabel_iff.1 (List.all_eq_true.1 h l hl)
    exact absurd (hshape.alphanum_or_hyphen _ hmem) (by decide)

theorem isHost_iff {cs : List Char} : isHost cs = true ↔ HostShape cs := by
  constructor
  · intro h
    unfold isHost at h
    split at h
    · obtain ⟨labels, hne, hshape, rfl⟩ := isHostName_iff.1 h
      exact .name hne hshape
    · next name number hsplit =>
      simp only [Bool.and_eq_true, Bool.not_eq_true', List.isEmpty_eq_false_iff,
        List.all_eq_true] at h
      obtain ⟨⟨hname, hdigits⟩, hnumber⟩ := h
      obtain ⟨labels, hne, hshape, rfl⟩ := isHostName_iff.1 hname
      rw [(eq_append_of_splitFirst hsplit).1]
      exact .numbered hne hshape hdigits hnumber
  · intro h
    cases h with
    | name hne hshape =>
        have hname := isHostName_iff.2 ⟨_, hne, hshape, rfl⟩
        rw [isHost, splitFirst_eq_none_iff.2 (colon_notMem_of_isHostName hname)]
        exact hname
    | numbered hne hshape hdigits hnumber =>
        have hname := isHostName_iff.2 ⟨_, hne, hshape, rfl⟩
        rw [isHost, splitFirst_append_cons _ (colon_notMem_of_isHostName hname)]
        simp only [hname, Bool.true_and, Bool.and_eq_true, Bool.not_eq_true',
          List.isEmpty_eq_false_iff, List.all_eq_true]
        exact ⟨hdigits, hnumber⟩

/-! ## Tags -/

theorem isTag_iff {cs : List Char} : isTag cs = true ↔ TagShape cs := by
  unfold TagShape
  cases cs with
  | nil => simp [isTag]
  | cons c cs => simp [isTag, and_assoc, or_assoc]

end ImageSync.Reference

/-! ## Digests -/

namespace ImageSync.Digest

open Text Reference

theorem hexLength?_eq_some_iff {algorithm : String} {n : Nat} :
    hexLength? algorithm.toList = some n ↔
      (algorithm, n) ∈ [("sha256", 64), ("sha384", 96), ("sha512", 128)] := by
  have hne : "sha256" ≠ "sha384" ∧ "sha256" ≠ "sha512" ∧ "sha384" ≠ "sha512" := by decide
  unfold hexLength?
  simp only [String.toList_inj, List.mem_cons, Prod.mk.injEq, List.not_mem_nil]
  grind

/-- A well-shaped digest has the characters that a digest may have. -/
theorem isDigestText_of_shape {d : Digest} (h : DigestShape d) :
    isAlgorithm d.algorithm.toList = true ∧ ':' ∉ d.algorithm.toList ∧
      isDigestText d.hex.toList = true := by
  obtain ⟨hknown, hhex⟩ := h
  have hknown : d.algorithm = "sha256" ∧ d.hex.length = 64 ∨
      d.algorithm = "sha384" ∧ d.hex.length = 96 ∨ d.algorithm = "sha512" ∧ d.hex.length = 128 := by
    simpa using hknown
  have halgorithm : isAlgorithm d.algorithm.toList = true ∧ ':' ∉ d.algorithm.toList := by
    rcases hknown with ⟨h, -⟩ | ⟨h, -⟩ | ⟨h, -⟩ <;> rw [h] <;> decide
  have hne : d.hex.toList ≠ [] := by
    rw [← List.length_pos_iff, String.length_toList]
    omega
  refine ⟨halgorithm.1, halgorithm.2, ?_⟩
  rw [isDigestText, Bool.and_eq_true, List.all_eq_true]
  refine ⟨by simpa using hne, fun c hc => ?_⟩
  simp [isAlphanum_of_isLowerAlnum (isLowerAlnum_of_isLowerHex (hhex c hc))]

/-- A text is read as a digest exactly if it is the digest in writing and this one is well shaped. -/
theorem parse_eq_ok_iff {input : String} {d : Digest} :
    parse input = .ok d ↔ d.text = input ∧ DigestShape d := by
  constructor
  · intro h
    obtain ⟨algorithm, hex, n, -, halgorithm, hlength, hhex, rfl⟩ := parse_eq_ok h
    refine ⟨text_of_parse h, hexLength?_eq_some_iff.1 ?_, ?_⟩
    · simpa [hlength] using halgorithm
    · simpa using hhex
  · rintro ⟨rfl, hshape⟩
    obtain ⟨halgorithm, hcolon, hhex⟩ := isDigestText_of_shape hshape
    have hsplit : splitFirst ':' d.text.toList = some (d.algorithm.toList, d.hex.toList) := by
      rw [← splitFirst_append_cons d.hex.toList hcolon]
      simp [text]
    have hvalue : d.hex.toList.length = d.hex.length ∧ d.hex.toList.all isLowerHex = true :=
      ⟨String.length_toList, List.all_eq_true.2 hshape.2⟩
    rw [parse, hsplit]
    simp only [halgorithm, hhex, Bool.and_self, if_true, hexLength?_eq_some_iff.2 hshape.1, hvalue,
      and_self, String.ofList_toList]

end ImageSync.Digest
