import ImageSync.Text.Blank
import Mathlib.Data.List.Basic

/-!
# Items separated by commas

The items of a header field stand one behind the other, with a comma between neighbours. There may
be white space around a comma.

## Main definitions

* `IsSeparator cs`: whether a text is a comma with white space around it.
* `CommaSeparated items text`: whether a text lists the items.

## Main statements

* `CommaSeparated.exists_of_cons`: what stands behind the first item.
-/

namespace ImageSync.Text

/-- Whether a text is a comma, with white space around it. -/
def IsSeparator (cs : List Char) : Prop :=
  ∃ before after : List Char, cs = before ++ ',' :: after ∧
    (∀ c ∈ before, isBlank c = true) ∧ ∀ c ∈ after, isBlank c = true

theorem IsSeparator.of_mem {cs : List Char} (h : IsSeparator cs) {c : Char} (hc : c ∈ cs) :
    c = ',' ∨ isBlank c = true := by
  obtain ⟨before, after, rfl, hbefore, hafter⟩ := h
  rcases List.mem_append.1 hc with hc | hc
  · exact .inr (hbefore c hc)
  · rcases List.mem_cons.1 hc with rfl | hc
    · exact .inl rfl
    · exact .inr (hafter c hc)

/-- Whether a text lists the items in order, with a separator between neighbours. -/
inductive CommaSeparated : List (List Char) → List Char → Prop
  | nil : CommaSeparated [] []
  | singleton (item : List Char) : CommaSeparated [item] item
  | cons {item next : List Char} {items : List (List Char)} {separator text : List Char}
      (hseparator : IsSeparator separator) (h : CommaSeparated (next :: items) text) :
      CommaSeparated (item :: next :: items) (item ++ (separator ++ text))

namespace CommaSeparated

/-- A list without items is empty. -/
theorem eq_nil {text : List Char} (h : CommaSeparated [] text) : text = [] := by
  cases h
  rfl

/-- Behind the first item there is nothing, or a separator and the list of the others. -/
theorem exists_of_cons {item : List Char} {items : List (List Char)} {text : List Char}
    (h : CommaSeparated (item :: items) text) : ∃ separator rest,
      text = item ++ (separator ++ rest) ∧ (∀ c ∈ separator, c = ',' ∨ isBlank c = true) ∧
      (separator = [] → rest = []) ∧ CommaSeparated items rest := by
  cases h with
  | singleton => exact ⟨[], [], by simp, by simp, fun _ => rfl, .nil⟩
  | cons hseparator h =>
      refine ⟨_, _, rfl, fun c hc => hseparator.of_mem hc, fun hnil => ?_, h⟩
      obtain ⟨before, after, rfl, -⟩ := hseparator
      simp at hnil

/-- A list ends as its last item does. -/
theorem of_getLast? {P : Char → Prop} {items : List (List Char)} {text : List Char}
    (h : CommaSeparated items text) (hne : ∀ item ∈ items, item ≠ [])
    (hlast : ∀ item ∈ items, ∀ c, item.getLast? = some c → P c) {c : Char}
    (hc : text.getLast? = some c) : P c := by
  induction h with
  | nil => cases hc
  | singleton item => exact hlast item List.mem_cons_self c hc
  | @cons item next items separator text hseparator h ih =>
      obtain ⟨hitem, hne⟩ := List.forall_mem_cons.1 hne
      obtain ⟨-, hlast⟩ := List.forall_mem_cons.1 hlast
      have htext : text ≠ [] := by
        obtain ⟨_, _, rfl, -⟩ := h.exists_of_cons
        simp [hne next List.mem_cons_self]
      refine ih hne hlast ?_
      rwa [← List.append_assoc, List.getLast?_append_of_ne_nil _ htext] at hc

end CommaSeparated

end ImageSync.Text
