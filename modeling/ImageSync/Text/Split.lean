/-!
# Splitting lists at a separator

Names, locations and header fields are cut at single separators. The functions here work on lists
of any type with decidable equality, so they serve characters and pieces of file names alike.

## Main definitions

* `splitFirst c l`: the parts before and after the first `c`.
* `splitLast c l`: the parts before and after the last `c`.
* `splitOn c l`: the maximal stretches without `c`; never empty.
* `splitAround w l`: the parts before and after the first occurrence of the word `w`.
* `joinWith c ls`: the stretches put together again with one `c` between neighbours.
-/

namespace ImageSync.Text

variable {α : Type} [DecidableEq α]

/-- The parts before and after the first `c`, if there is one. -/
def splitFirst (c : α) : List α → Option (List α × List α)
  | [] => none
  | x :: xs => if x = c then some ([], xs) else (splitFirst c xs).map fun p => (x :: p.1, p.2)

/-- The parts before and after the last `c`, if there is one. -/
def splitLast (c : α) : List α → Option (List α × List α)
  | [] => none
  | x :: xs =>
    match splitLast c xs with
    | some p => some (x :: p.1, p.2)
    | none => if x = c then some ([], xs) else none

/-- The maximal stretches without `c`, in order; a list without `c` is one stretch. -/
def splitOn (c : α) : List α → List (List α)
  | [] => [[]]
  | x :: xs =>
    if x = c then [] :: splitOn c xs
    else
      match splitOn c xs with
      | [] => [[x]]
      | p :: ps => (x :: p) :: ps

/-- The stretches in order with one `c` between neighbours. -/
def joinWith (c : α) : List (List α) → List α
  | [] => []
  | [l] => l
  | l :: ls => l ++ c :: joinWith c ls

/-- The parts before and after the first occurrence of the word `w`. -/
def splitAround (w : List α) : List α → Option (List α × List α)
  | [] => if w.isEmpty then some ([], []) else none
  | x :: xs =>
    if w.isPrefixOf (x :: xs) then some ([], (x :: xs).drop w.length)
    else (splitAround w xs).map fun p => (x :: p.1, p.2)

/-- Whether the word `w` occurs somewhere. -/
def occurs (w : List α) (l : List α) : Bool := (splitAround w l).isSome

/-- The list without its longest initial stretch inside `p`. -/
abbrev trimStart (p : α → Bool) (l : List α) : List α := l.dropWhile p

/-- The list without its longest final stretch inside `p`. -/
def trimEnd (p : α → Bool) (l : List α) : List α := (l.reverse.dropWhile p).reverse

/-- The list without its longest initial and final stretches inside `p`. -/
def trim (p : α → Bool) (l : List α) : List α := trimEnd p (trimStart p l)

@[simp] theorem splitFirst_nil (c : α) : splitFirst c ([] : List α) = none := rfl

/-- Splitting loses nothing but the separator, and the first part holds none. -/
theorem eq_append_of_splitFirst {c : α} {l a b : List α} (h : splitFirst c l = some (a, b)) :
    l = a ++ c :: b ∧ c ∉ a := by
  induction l generalizing a with
  | nil => simp at h
  | cons x xs ih =>
    by_cases hx : x = c
    · simp [splitFirst, hx] at h
      simp [h, hx]
    · simp only [splitFirst, hx, if_false, Option.map_eq_some_iff] at h
      obtain ⟨p, hp, he⟩ := h
      cases he
      have := ih hp
      refine ⟨by rw [List.cons_append, ← this.1], ?_⟩
      simp [Ne.symm hx, this.2]

theorem splitFirst_append_cons {c : α} {a : List α} (b : List α) (h : c ∉ a) :
    splitFirst c (a ++ c :: b) = some (a, b) := by
  induction a with
  | nil => simp [splitFirst]
  | cons x xs ih =>
    simp only [List.mem_cons, not_or] at h
    simp [splitFirst, Ne.symm h.1, ih h.2]

theorem splitFirst_eq_none_iff {c : α} {l : List α} : splitFirst c l = none ↔ c ∉ l := by
  induction l with
  | nil => simp
  | cons x xs ih =>
    by_cases hx : x = c
    · simp [splitFirst, hx]
    · simp [splitFirst, hx, ih, Ne.symm hx]

theorem splitLast_eq_none_iff {c : α} {l : List α} : splitLast c l = none ↔ c ∉ l := by
  induction l with
  | nil => simp [splitLast]
  | cons x xs ih =>
    cases h : splitLast c xs with
    | some p =>
      have : c ∈ xs := Classical.byContradiction fun hc => by simp [ih.2 hc] at h
      simp [splitLast, h, this]
    | none =>
      by_cases hx : x = c
      · simp [splitLast, h, hx]
      · simp [splitLast, h, hx, Ne.symm hx, ih.1 h]

/-- Splitting loses nothing but the separator, and the last part holds none. -/
theorem eq_append_of_splitLast {c : α} {l a b : List α} (h : splitLast c l = some (a, b)) :
    l = a ++ c :: b ∧ c ∉ b := by
  induction l generalizing a with
  | nil => simp [splitLast] at h
  | cons x xs ih =>
    cases hs : splitLast c xs with
    | some p =>
      simp only [splitLast, hs, Option.some.injEq] at h
      cases h
      have := ih hs
      exact ⟨by rw [List.cons_append, ← this.1], this.2⟩
    | none =>
      by_cases hx : x = c
      · simp only [splitLast, hs, hx, if_true, Option.some.injEq, Prod.mk.injEq] at h
        obtain ⟨rfl, rfl⟩ := h
        exact ⟨by simp [hx], splitLast_eq_none_iff.1 hs⟩
      · simp [splitLast, hs, hx] at h

theorem splitOn_ne_nil (c : α) (l : List α) : splitOn c l ≠ [] := by
  cases l with
  | nil => simp [splitOn]
  | cons x xs =>
    simp only [splitOn]
    split
    · simp
    · split <;> simp

/-- The stretches put together again give the list. -/
@[simp] theorem joinWith_splitOn (c : α) (l : List α) : joinWith c (splitOn c l) = l := by
  induction l with
  | nil => rfl
  | cons x xs ih =>
    have hne := splitOn_ne_nil c xs
    cases hs : splitOn c xs with
    | nil => exact absurd hs hne
    | cons p ps =>
      rw [hs] at ih
      by_cases hx : x = c
      · simp [splitOn, hx, hs, joinWith, ih]
      · cases ps with
        | nil => simp_all [splitOn, joinWith]
        | cons q qs => simp_all [splitOn, joinWith]

end ImageSync.Text
