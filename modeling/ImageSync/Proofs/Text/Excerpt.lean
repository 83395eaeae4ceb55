import ImageSync.Proofs.Text.Split
import ImageSync.Text.Excerpt

/-!
# What an excerpt keeps

A text is cut at the number of bytes that an excerpt may have, but not inside a character. What is
kept is the longest part at the beginning or at the end that fits. A character has at most four bytes,
so at most three bytes less are kept than may be.

## Main definitions

* `IsLongest IsPart n part`: of the parts of a kind, `part` is the longest that has at most `n` bytes.

## Main statements

* `prefix_fitting_iff`: which parts at the beginning are kept.
* `suffix_fittingEnd_iff`: which parts at the end are kept.
* `isLongest_fitting`, `isLongest_fittingEnd`: the longest ones are kept.
* `le_size_fitting`, `le_size_fittingEnd`: how long they are.
-/

namespace ImageSync.Text.Excerpt

/-- What fits is kept, whatever follows. -/
theorem prefix_fitting_append {n : Nat} {part : List Char} (h : Utf8.size part ≤ n)
    (rest : List Char) : part <+: fitting n (part ++ rest) := by
  induction part generalizing n with
  | nil => exact List.nil_prefix
  | cons c part ih =>
      rw [Utf8.size_cons] at h
      rw [List.cons_append, fitting, if_pos (by omega)]
      exact (List.prefix_cons_inj c).2 (ih (by omega))

/-- Of the parts at the beginning of a text those are kept that fit. -/
theorem prefix_fitting_iff {n : Nat} {cs part : List Char} :
    part <+: fitting n cs ↔ part <+: cs ∧ Utf8.size part ≤ n := by
  constructor
  · intro h
    exact ⟨h.trans (fitting_isPrefix n cs),
      Nat.le_trans (Utf8.size_le_of_prefix h) (size_fitting_le n cs)⟩
  · rintro ⟨⟨rest, rfl⟩, hsize⟩
    exact prefix_fitting_append hsize rest

/-- Of the parts at the end of a text those are kept that fit. -/
theorem suffix_fittingEnd_iff {n : Nat} {cs part : List Char} :
    part <:+ fittingEnd n cs ↔ part <:+ cs ∧ Utf8.size part ≤ n := by
  rw [fittingEnd, ← List.reverse_prefix, List.reverse_reverse, prefix_fitting_iff,
    List.reverse_prefix, Utf8.size_reverse]

/-- Of the parts of a text that are of a kind, the longest one that has at most `n` bytes. -/
structure IsLongest (IsPart : List Char → Prop) (n : Nat) (part : List Char) : Prop where
  isPart : IsPart part
  size_le : Utf8.size part ≤ n
  longest : ∀ other, IsPart other → Utf8.size other ≤ n → Utf8.size other ≤ Utf8.size part

theorem isLongest_fitting (n : Nat) (cs : List Char) : IsLongest (· <+: cs) n (fitting n cs) where
  isPart := fitting_isPrefix n cs
  size_le := size_fitting_le n cs
  longest _ hpart hsize := Utf8.size_le_of_prefix (prefix_fitting_iff.2 ⟨hpart, hsize⟩)

theorem isLongest_fittingEnd (n : Nat) (cs : List Char) :
    IsLongest (· <:+ cs) n (fittingEnd n cs) where
  isPart := (suffix_fittingEnd_iff.1 List.suffix_rfl).1
  size_le := (suffix_fittingEnd_iff.1 List.suffix_rfl).2
  longest _ hpart hsize := Utf8.size_le_of_suffix (suffix_fittingEnd_iff.2 ⟨hpart, hsize⟩)

/-- A text that is too long has a character that does not fit behind what is kept. -/
theorem exists_fitting_append {n : Nat} {cs : List Char} (h : n < Utf8.size cs) :
    ∃ c rest, cs = fitting n cs ++ c :: rest ∧ n < Utf8.size (fitting n cs) + c.utf8Size := by
  induction cs generalizing n with
  | nil => simp at h
  | cons c cs ih =>
      rw [Utf8.size_cons] at h
      by_cases hc : c.utf8Size ≤ n
      · obtain ⟨d, rest, hcs, hlt⟩ := ih (n := n - c.utf8Size) (by omega)
        rw [fitting, if_pos hc, Utf8.size_cons]
        exact ⟨d, rest, by rw [List.cons_append, ← hcs], by omega⟩
      · rw [fitting, if_neg hc]
        exact ⟨c, cs, rfl, by simpa using Nat.lt_of_not_le hc⟩

/-- Of a text that is too long all is kept that may be, but three bytes at most. -/
theorem le_size_fitting {n : Nat} {cs : List Char} (h : n < Utf8.size cs) :
    n ≤ Utf8.size (fitting n cs) + 3 := by
  obtain ⟨c, rest, -, hlt⟩ := exists_fitting_append h
  have hc : c.utf8Size ≤ 4 := c.utf8Size_le_four
  omega

theorem le_size_fittingEnd {n : Nat} {cs : List Char} (h : n < Utf8.size cs) :
    n ≤ Utf8.size (fittingEnd n cs) + 3 := by
  rw [fittingEnd, Utf8.size_reverse]
  exact le_size_fitting (by rwa [Utf8.size_reverse])

end ImageSync.Text.Excerpt
