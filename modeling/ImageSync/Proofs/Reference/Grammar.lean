import ImageSync.Proofs.Text.Split
import ImageSync.Reference.Basic

/-!
# The characters of a reference

Which characters the parts of a reference can have. The separators of the full name (slash, colon,
at sign) occur in a part only where the grammar of that part has them, so a name can be cut at them
again.

## Main statements

* `isHostChar_of_isHost`, `isPathChar_of_isPath`, `isTagChar_of_isTag`: the alphabet of each part.
* `Digest.isDigestChar_of_parse`: the alphabet of a digest.
* `Digest.text_of_parse`: a digest is written as it was read.
-/

namespace ImageSync.Reference

open Text

/-! ## Letters and digits -/

theorem isUpper_iff {c : Char} : c.isUpper = true ↔ 65 ≤ c.toNat ∧ c.toNat ≤ 90 :=
  decide_eq_true_iff

theorem isLower_iff {c : Char} : c.isLower = true ↔ 97 ≤ c.toNat ∧ c.toNat ≤ 122 :=
  (Bool.and_eq_true_iff).trans (and_congr decide_eq_true_iff decide_eq_true_iff)

theorem isDigit_iff {c : Char} : c.isDigit = true ↔ 48 ≤ c.toNat ∧ c.toNat ≤ 57 :=
  (Bool.and_eq_true_iff).trans (and_congr decide_eq_true_iff decide_eq_true_iff)

theorem isAlphanum_iff {c : Char} :
    c.isAlphanum = true ↔ (c.isUpper = true ∨ c.isLower = true) ∨ c.isDigit = true :=
  Bool.or_eq_true_iff.trans (or_congr_left Bool.or_eq_true_iff)

theorem toNat_lt_of_isAlphanum {c : Char} (h : c.isAlphanum = true) : c.toNat < 128 := by
  rw [isAlphanum_iff, isUpper_iff, isLower_iff, isDigit_iff] at h
  omega

theorem isAlphanum_of_isLowerAlnum {c : Char} (h : isLowerAlnum c = true) :
    c.isAlphanum = true := by
  rcases Bool.or_eq_true_iff.1 h with hlower | hdigit
  · exact isAlphanum_iff.2 (.inl (.inr hlower))
  · exact isAlphanum_iff.2 (.inr hdigit)

theorem isLowerAlnum_of_isLowerHex {c : Char} (h : isLowerHex c = true) : isLowerAlnum c = true := by
  simp only [isLowerHex, Bool.or_eq_true, Bool.and_eq_true, decide_eq_true_eq] at h
  rw [isLowerAlnum, Bool.or_eq_true]
  rcases h with hdigit | ⟨hle, hge⟩
  · exact .inr hdigit
  · exact .inl (isLower_iff.2 ⟨hle, Nat.le_trans hge (by decide)⟩)

theorem isUpper_eq_false_of_isLowerAlnum {c : Char} (h : isLowerAlnum c = true) :
    c.isUpper = false := by
  rw [isLowerAlnum, Bool.or_eq_true, isLower_iff, isDigit_iff] at h
  rw [Bool.eq_false_iff, ne_eq, isUpper_iff]
  omega

/-! ## Path components and paths -/

/-- The characters of a path component. -/
def isComponentChar (c : Char) : Bool := isLowerAlnum c || c == '.' || c == '_' || c == '-'

theorem ComponentState.next_of_isLowerAlnum {c : Char} (h : isLowerAlnum c = true)
    (s : ComponentState) : s.next c = some run := by
  simp [next, h]

theorem ComponentState.isComponentChar_of_next {s s' : ComponentState} {c : Char}
    (h : s.next c = some s') : isComponentChar c = true := by
  unfold next at h
  grind [isComponentChar]

theorem ComponentState.isComponentChar_of_accepts {s : ComponentState} {cs : List Char}
    (h : s.accepts cs = true) : ∀ c ∈ cs, isComponentChar c = true := by
  induction cs generalizing s with
  | nil => simp
  | cons c cs ih =>
      rw [accepts] at h
      cases hnext : s.next c with
      | none => simp [hnext] at h
      | some s' =>
          rw [hnext] at h
          intro d hd
          rcases List.mem_cons.1 hd with rfl | hd
          · exact isComponentChar_of_next hnext
          · exact ih h d hd

/-- The characters of a path. -/
def isPathChar (c : Char) : Bool := isComponentChar c || c == '/'

theorem isPathChar_of_isPath {cs : List Char} (h : isPath cs = true) :
    ∀ c ∈ cs, isPathChar c = true := by
  intro c hc
  rcases mem_splitOn_or_eq (c := '/') hc with rfl | ⟨p, hp, hcp⟩
  · rfl
  · have hcomponent : isComponent p = true := List.all_eq_true.1 h p hp
    simp [isPathChar, ComponentState.isComponentChar_of_accepts hcomponent c hcp]

theorem isUpper_eq_false_of_isPathChar {c : Char} (h : isPathChar c = true) :
    c.isUpper = false := by
  simp only [isPathChar, isComponentChar, Bool.or_eq_true, beq_iff_eq] at h
  rcases h with (((h | rfl) | rfl) | rfl) | rfl
  · exact isUpper_eq_false_of_isLowerAlnum h
  all_goals rfl

theorem toNat_lt_of_isPathChar {c : Char} (h : isPathChar c = true) : c.toNat < 128 := by
  simp only [isPathChar, isComponentChar, Bool.or_eq_true, beq_iff_eq] at h
  rcases h with (((h | rfl) | rfl) | rfl) | rfl
  · exact toNat_lt_of_isAlphanum (isAlphanum_of_isLowerAlnum h)
  all_goals decide

/-- A path has no capital letters. -/
theorem any_isUpper_of_isPath {cs : List Char} (h : isPath cs = true) :
    cs.any Char.isUpper = false := by
  rw [List.any_eq_false]
  intro c hc
  simp [isUpper_eq_false_of_isPathChar (isPathChar_of_isPath h c hc)]

theorem ne_nil_of_isPath {cs : List Char} (h : isPath cs = true) : cs ≠ [] := by
  rintro rfl
  exact absurd h (by decide)

theorem colon_notMem_of_isPath {cs : List Char} (h : isPath cs = true) : ':' ∉ cs :=
  fun hc => absurd (isPathChar_of_isPath h _ hc) (by decide)

theorem at_notMem_of_isPath {cs : List Char} (h : isPath cs = true) : '@' ∉ cs :=
  fun hc => absurd (isPathChar_of_isPath h _ hc) (by decide)

/-! ## Hosts -/

/-- The characters of a host. -/
def isHostChar (c : Char) : Bool := c.isAlphanum || c == '-' || c == '.' || c == ':'

theorem isHostChar_of_isHostName {cs : List Char} (h : isHostName cs = true) :
    ∀ c ∈ cs, isHostChar c = true := by
  intro c hc
  rcases mem_splitOn_or_eq (c := '.') hc with rfl | ⟨p, hp, hcp⟩
  · rfl
  · have hlabel : isLabel p = true := List.all_eq_true.1 h p hp
    simp only [isLabel, Bool.and_eq_true, List.all_eq_true] at hlabel
    have := hlabel.1.1 c hcp
    simp_all [isHostChar]

theorem isHostChar_of_isHost {cs : List Char} (h : isHost cs = true) :
    ∀ c ∈ cs, isHostChar c = true := by
  intro c hc
  rw [isHost] at h
  cases hs : splitFirst ':' cs with
  | none =>
      rw [hs] at h
      exact isHostChar_of_isHostName h c hc
  | some parts =>
      obtain ⟨name, number⟩ := parts
      rw [hs] at h
      simp only [Bool.and_eq_true, List.all_eq_true] at h
      rw [(eq_append_of_splitFirst hs).1] at hc
      rcases List.mem_append.1 hc with hc | hc
      · exact isHostChar_of_isHostName h.1.1 c hc
      · rcases List.mem_cons.1 hc with rfl | hc
        · rfl
        · simp [isHostChar, Char.isAlphanum, h.2 c hc]

theorem toNat_lt_of_isHostChar {c : Char} (h : isHostChar c = true) : c.toNat < 128 := by
  simp only [isHostChar, Bool.or_eq_true, beq_iff_eq] at h
  rcases h with ((h | rfl) | rfl) | rfl
  · exact toNat_lt_of_isAlphanum h
  all_goals decide

theorem slash_notMem_of_isHost {cs : List Char} (h : isHost cs = true) : '/' ∉ cs :=
  fun hc => absurd (isHostChar_of_isHost h _ hc) (by decide)

/-! ## Tags and digests -/

/-- The characters of a tag. -/
def isTagChar (c : Char) : Bool := isWord c || c == '.' || c == '-'

theorem isTagChar_of_isTag {cs : List Char} (h : isTag cs = true) :
    ∀ c ∈ cs, isTagChar c = true := by
  cases cs with
  | nil => simp
  | cons c cs =>
      simp only [isTag, Bool.and_eq_true, List.all_eq_true] at h
      intro d hd
      rcases List.mem_cons.1 hd with rfl | hd
      · simp [isTagChar, h.1.1]
      · exact h.2 d hd

theorem slash_notMem_of_isTag {cs : List Char} (h : isTag cs = true) : '/' ∉ cs :=
  fun hc => absurd (isTagChar_of_isTag h _ hc) (by decide)

theorem colon_notMem_of_isTag {cs : List Char} (h : isTag cs = true) : ':' ∉ cs :=
  fun hc => absurd (isTagChar_of_isTag h _ hc) (by decide)

theorem at_notMem_of_isTag {cs : List Char} (h : isTag cs = true) : '@' ∉ cs :=
  fun hc => absurd (isTagChar_of_isTag h _ hc) (by decide)

end ImageSync.Reference

namespace ImageSync.Digest

open Text

theorem eq_of_hexLength? {algorithm : List Char} {n : Nat} (h : hexLength? algorithm = some n) :
    algorithm = "sha256".toList ∨ algorithm = "sha384".toList ∨ algorithm = "sha512".toList := by
  unfold hexLength? at h
  split at h
  · exact .inl ‹_›
  · split at h
    · exact .inr (.inl ‹_›)
    · split at h
      · exact .inr (.inr ‹_›)
      · cases h

/-- What a text has to be that is read as a digest. -/
theorem parse_eq_ok {input : String} {d : Digest} (h : parse input = .ok d) :
    ∃ algorithm hex n, input.toList = algorithm ++ ':' :: hex ∧ hexLength? algorithm = some n ∧
      hex.length = n ∧ hex.all Reference.isLowerHex = true ∧
      d = ⟨String.ofList algorithm, String.ofList hex⟩ := by
  rw [parse] at h
  cases hs : splitFirst ':' input.toList with
  | none => simp [hs] at h
  | some parts =>
      obtain ⟨algorithm, hex⟩ := parts
      rw [hs] at h
      dsimp only at h
      split at h
      · cases hn : hexLength? algorithm with
        | none => simp [hn] at h
        | some n =>
            rw [hn] at h
            dsimp only at h
            split at h
            · rename_i hhex
              cases h
              exact ⟨algorithm, hex, n, (eq_append_of_splitFirst hs).1, hn, hhex.1, hhex.2, rfl⟩
            · cases h
      · cases h

/-- A digest is written as it was read. -/
theorem text_of_parse {input : String} {d : Digest} (h : parse input = .ok d) : d.text = input := by
  obtain ⟨algorithm, hex, n, hinput, -, -, -, rfl⟩ := parse_eq_ok h
  rw [← String.toList_inj, hinput]
  simp [text]

theorem colon_mem_of_parse {input : String} {d : Digest} (h : parse input = .ok d) :
    ':' ∈ input.toList := by
  obtain ⟨algorithm, hex, n, hinput, -⟩ := parse_eq_ok h
  simp [hinput]

/-- The characters of a digest. -/
def isDigestChar (c : Char) : Bool := c.isAlphanum || c == ':'

theorem isDigestChar_of_parse {input : String} {d : Digest} (h : parse input = .ok d) :
    ∀ c ∈ input.toList, isDigestChar c = true := by
  obtain ⟨algorithm, hex, n, hinput, halgorithm, -, hhex, -⟩ := parse_eq_ok h
  have hfirst : algorithm.all isDigestChar = true := by
    rcases eq_of_hexLength? halgorithm with rfl | rfl | rfl <;> rfl
  have hlast : ∀ c ∈ hex, isDigestChar c = true := by
    intro c hc
    have hlower := Reference.isLowerAlnum_of_isLowerHex (List.all_eq_true.1 hhex c hc)
    simp [isDigestChar, Reference.isAlphanum_of_isLowerAlnum hlower]
  intro c hc
  rw [hinput] at hc
  rcases List.mem_append.1 hc with hc | hc
  · exact List.all_eq_true.1 hfirst c hc
  · rcases List.mem_cons.1 hc with rfl | hc
    · rfl
    · exact hlast c hc

theorem slash_notMem_of_parse {input : String} {d : Digest} (h : parse input = .ok d) :
    '/' ∉ input.toList :=
  fun hc => absurd (isDigestChar_of_parse h _ hc) (by decide)

/-- No text is both a digest and a tag. -/
theorem isTag_eq_false_of_parse {input : String} {d : Digest} (h : parse input = .ok d) :
    Reference.isTag input.toList = false := by
  rw [Bool.eq_false_iff]
  exact fun htag => Reference.colon_notMem_of_isTag htag (colon_mem_of_parse h)

end ImageSync.Digest
