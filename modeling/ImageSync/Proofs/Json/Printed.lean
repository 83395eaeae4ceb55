import ImageSync.Json.Parser
import ImageSync.Json.Printer
import Mathlib.Tactic.SplitIfs

/-!
# Written values are read

Strings, and objects whose fields are read back, are read as what was written. The depth to which
the reader goes is limited by the length of the text, and what stands behind a value is left to its
surroundings. So a value is read back if it is with any limit above its own length and with any text
behind it; in this form the statement for an object follows from those for its fields.

## Main definitions

* `Json.ReadsBack v`: what is written for `v` is read as `v`, whatever follows.

## Main statements

* `Json.readsBack_string`, `Json.readsBack_object`: strings are read back, and objects if their
  fields are.
* `Json.ReadsBack.parse?_text`: the text of a value that is read back has that value.
-/

namespace ImageSync.Json

open Text

/-! ## Strings -/

theorem twoHexDigits_eq {n : Nat} (h : n < 32) :
    twoHexDigits n = [Nat.digitChar (n / 16), Nat.digitChar (n % 16)] := by
  revert n
  decide

theorem hexDigit?_digitChar {n : Nat} (h : n < 16) : hexDigit? (Nat.digitChar n) = some n := by
  revert n
  decide

/-- A control character is read from its four digits. -/
theorem escape?_control {c : Char} (h : c.toNat < 32) (rest : List Char) :
    escape? ('u' :: '0' :: '0' :: (twoHexDigits c.toNat ++ rest)) = some (c, rest) := by
  have hzero : hexDigit? '0' = some 0 := rfl
  have hn : c.toNat / 16 * 16 + c.toNat % 16 = c.toNat := by omega
  rw [twoHexDigits_eq h]
  simp only [List.cons_append, List.nil_append, escape?, fourHexDigits?, hzero,
    hexDigit?_digitChar (show c.toNat / 16 < 16 by omega),
    hexDigit?_digitChar (show c.toNat % 16 < 16 by omega), Option.bind_eq_bind, Option.bind_some,
    Nat.zero_mul, Nat.zero_add, hn, Char.ofNat_toNat]
  rw [if_neg (by omega), if_neg (by omega)]

/-- A character of a string is written as itself or as an escape sequence that is read as it. -/
theorem printChar_cases (c : Char) :
    (printChar c = [c] ∧ c ≠ '"' ∧ c ≠ '\\' ∧ 0x20 ≤ c.toNat) ∨
      ∃ cs, printChar c = '\\' :: cs ∧ ∀ rest, escape? (cs ++ rest) = some (c, rest) := by
  unfold printChar
  split_ifs with hquote hescape hb hf hn hr ht hcontrol
  any_goals
    subst c
    exact .inr ⟨_, rfl, fun _ => rfl⟩
  case pos => exact .inr ⟨_, rfl, fun rest => escape?_control hcontrol rest⟩
  case neg => exact .inl ⟨rfl, hquote, hescape, by omega⟩

theorem stringBody?_printChar (fuel : Nat) (c : Char) (rest : List Char) :
    stringBody? (fuel + 1) (printChar c ++ rest) =
      (stringBody? fuel rest).map fun p => (c :: p.1, p.2) := by
  obtain ⟨hc, hquote, hescape, hvisible⟩ | ⟨cs, hc, hread⟩ := printChar_cases c
  · rw [hc, List.singleton_append, stringBody?, if_neg (by omega)]
    · cases stringBody? fuel rest <;> rfl
    · exact hquote
    · exact hescape
  · simp only [hc, List.cons_append, stringBody?, hread, Option.bind_eq_bind, Option.bind_some]
    cases stringBody? fuel rest <;> rfl

/-- The characters of a string up to its closing quote. -/
theorem stringBody?_print {fuel : Nat} {cs : List Char} (h : cs.length < fuel) (rest : List Char) :
    stringBody? fuel (cs.flatMap printChar ++ '"' :: rest) = some (cs, rest) := by
  induction cs generalizing fuel with
  | nil =>
      obtain ⟨fuel, rfl⟩ := Nat.exists_eq_succ_of_ne_zero (Nat.ne_of_gt h)
      rfl
  | cons c cs ih =>
      obtain ⟨fuel, rfl⟩ := Nat.exists_eq_succ_of_ne_zero (Nat.ne_zero_of_lt h)
      rw [List.flatMap_cons, List.append_assoc, stringBody?_printChar, ih (by simpa using h)]
      rfl

theorem length_le_flatMap_printChar (cs : List Char) :
    cs.length ≤ (cs.flatMap printChar).length := by
  have hc (c : Char) : 1 ≤ (printChar c).length := by
    obtain ⟨hc, -⟩ | ⟨cs, hc, -⟩ := printChar_cases c <;> simp [hc]
  induction cs with
  | nil => simp
  | cons c cs ih =>
      have := hc c
      rw [List.flatMap_cons, List.length_append, List.length_cons]
      omega

/-- A string is read from behind its opening quote, with the allowance that the reader has. -/
theorem stringBody?_printString (s : String) (rest : List Char) :
    ∃ body, printString s ++ rest = '"' :: body ∧
      stringBody? (body.length + 1) body = some (s.toList, rest) := by
  refine ⟨s.toList.flatMap printChar ++ '"' :: rest, by simp [printString], ?_⟩
  apply stringBody?_print
  have := length_le_flatMap_printChar s.toList
  rw [List.length_append]
  omega

/-! ## Values -/

/-- Whether a value is read from what is written for it, whatever follows. -/
structure ReadsBack (v : Json) : Prop where
  /-- It does not begin with a blank. -/
  skipBlanks_print (rest : List Char) : skipBlanks (v.print ++ rest) = v.print ++ rest
  readValue?_print {fuel : Nat} (h : v.print.length < fuel) (rest : List Char) :
    readValue? fuel (v.print ++ rest) = some (v, rest)

theorem skipBlanks_cons {c : Char} (h : isSeparatingBlank c = false) (cs : List Char) :
    skipBlanks (c :: cs) = c :: cs := by
  simp [skipBlanks, h]

theorem readsBack_string (s : String) : ReadsBack (string s) where
  skipBlanks_print rest := by
    obtain ⟨body, hbody, -⟩ := stringBody?_printString s rest
    rw [print, hbody]
    exact skipBlanks_cons rfl _
  readValue?_print {fuel} h rest := by
    obtain ⟨body, hbody, hread⟩ := stringBody?_printString s rest
    obtain ⟨fuel, rfl⟩ := Nat.exists_eq_succ_of_ne_zero (Nat.ne_zero_of_lt h)
    simp only [print, hbody, readValue?, if_true, hread, Option.map_some, String.ofList_toList]

/-- What is written for the fields of an object. -/
def fieldText (fields : List (String × Json)) : List Char := joinWith ',' (printFields fields)

@[simp] theorem fieldText_singleton (key : String) (v : Json) :
    fieldText [(key, v)] = printString key ++ ':' :: v.print := by
  simp [fieldText, printFields, joinWith]

@[simp] theorem fieldText_cons_cons (key : String) (v : Json) (f : String × Json)
    (fields : List (String × Json)) : fieldText ((key, v) :: f :: fields) =
      printString key ++ ':' :: v.print ++ ',' :: fieldText (f :: fields) := by
  simp [fieldText, printFields, joinWith]

/-- A field begins with the quote of its name. -/
theorem fieldText_eq_cons (f : String × Json) (fields : List (String × Json)) :
    ∃ cs, fieldText (f :: fields) = '"' :: cs := by
  obtain ⟨key, v⟩ := f
  cases fields <;> simp [printString]

theorem skipBlanks_fieldText (f : String × Json) (fields : List (String × Json))
    (rest : List Char) :
    skipBlanks (fieldText (f :: fields) ++ rest) = fieldText (f :: fields) ++ rest := by
  obtain ⟨cs, hcs⟩ := fieldText_eq_cons f fields
  rw [hcs, List.cons_append]
  exact skipBlanks_cons rfl _

/-- Reading one field: what comes next depends on what stands behind it. -/
theorem readMembers?_field {key : String} {v : Json} (hv : v.ReadsBack) {fuel : Nat}
    (hfuel : v.print.length < fuel) (c : Char) (rest : List Char)
    (hc : isSeparatingBlank c = false) :
    readMembers? (fuel + 1) (printString key ++ ':' :: (v.print ++ c :: rest)) =
      if c = '\x7d' then some ([(key, v)], rest)
      else if c = ',' then
        (readMembers? fuel (skipBlanks rest)).map fun p => ((key, v) :: p.1, p.2)
      else none := by
  obtain ⟨body, hbody, hread⟩ := stringBody?_printString key (':' :: (v.print ++ c :: rest))
  have hcolon := skipBlanks_cons (c := ':') rfl (v.print ++ c :: rest)
  rw [hbody]
  simp only [readMembers?, hread, hcolon, hv.skipBlanks_print, hv.readValue?_print hfuel,
    skipBlanks_cons hc, String.ofList_toList]
  split_ifs with hclose hcomma
  · rw [hclose]
    rfl
  · rw [hcomma]
    rfl
  · split
    case h_1 h => exact absurd (List.head_eq_of_cons_eq h) hclose
    case h_2 h => exact absurd (List.head_eq_of_cons_eq h) hcomma
    case h_3 => rfl

/-- The fields up to the closing brace are read one by one. -/
theorem readMembers?_fieldText {fields : List (String × Json)} (hne : fields ≠ [])
    (h : ∀ f ∈ fields, f.2.ReadsBack) {fuel : Nat} (hfuel : (fieldText fields).length < fuel)
    (rest : List Char) :
    readMembers? fuel (fieldText fields ++ '\x7d' :: rest) = some (fields, rest) := by
  -- A field is shorter than all fields together, so the limit that one step takes away is enough
  -- for its value and for the other fields.
  induction fields generalizing fuel with
  | nil => exact absurd rfl hne
  | cons f fields ih =>
      obtain ⟨key, v⟩ := f
      have hv : v.ReadsBack := h (key, v) (List.mem_cons_self ..)
      obtain ⟨fuel, rfl⟩ := Nat.exists_eq_succ_of_ne_zero (Nat.ne_zero_of_lt hfuel)
      cases fields with
      | nil =>
          have hlength : v.print.length < fuel := by
            simp [printString] at hfuel
            omega
          rw [fieldText_singleton, List.append_assoc, List.cons_append,
            readMembers?_field hv hlength '\x7d' rest rfl, if_pos rfl]
      | cons g fields =>
          have hlength : v.print.length < fuel ∧ (fieldText (g :: fields)).length < fuel := by
            simp [printString] at hfuel
            omega
          have hrest := ih (List.cons_ne_nil g fields)
            (fun f hf => h f (List.mem_cons_of_mem _ hf)) hlength.2
          have hcomma : fieldText ((key, v) :: g :: fields) ++ '\x7d' :: rest = printString key ++
              ':' :: (v.print ++ ',' :: (fieldText (g :: fields) ++ '\x7d' :: rest)) := by simp
          rw [hcomma, readMembers?_field hv hlength.1 ',' _ rfl, if_neg (by decide), if_pos rfl,
            skipBlanks_fieldText, hrest]
          rfl

theorem readsBack_object {fields : List (String × Json)} (h : ∀ f ∈ fields, f.2.ReadsBack) :
    ReadsBack (object fields) where
  skipBlanks_print rest := by
    rw [print]
    exact skipBlanks_cons rfl _
  readValue?_print {fuel} hfuel rest := by
    obtain ⟨fuel, rfl⟩ := Nat.exists_eq_succ_of_ne_zero (Nat.ne_zero_of_lt hfuel)
    have hprint : (object fields).print ++ rest =
        '\x7b' :: (fieldText fields ++ '\x7d' :: rest) := by
      simp [print, fieldText]
    rw [hprint, readValue?, if_neg (by decide), if_neg (by decide), if_pos rfl]
    cases fields with
    | nil => rfl
    | cons f fields =>
        have hlength : (fieldText (f :: fields)).length < fuel := by
          simp [print, fieldText] at hfuel ⊢
          omega
        have hread := readMembers?_fieldText (List.cons_ne_nil f fields) h hlength rest
        obtain ⟨cs, hcs⟩ := fieldText_eq_cons f fields
        rw [hcs, List.cons_append] at hread
        rw [hcs, List.cons_append, skipBlanks_cons rfl]
        show (readMembers? fuel _).map _ = _
        rw [hread]
        rfl

/-- The text of a value that is read back has that value. -/
theorem ReadsBack.parse?_text {v : Json} (h : v.ReadsBack) : parse? v.text = some v := by
  have hskip : skipBlanks v.print = v.print := by simpa using h.skipBlanks_print []
  have hread : readValue? (v.print.length + 1) v.print = some (v, []) := by
    simpa using h.readValue?_print (Nat.lt_succ_self _) []
  simp only [parse?, text, String.toList_ofList, hskip, hread]
  rfl

end ImageSync.Json
