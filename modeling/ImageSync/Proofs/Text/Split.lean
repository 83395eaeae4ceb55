import ImageSync.Text.Split
import ImageSync.Text.Utf8

/-!
# Cutting and joining lists

Cutting a list at a separator undoes joining stretches that do not hold it, and the stretches hold
everything but the separator. A word that occurs in a list is a part of it; where the list is
trimmed it is kept, unless it begins or ends with what is trimmed.

## Main statements

* `splitOn_joinWith`: stretches that were joined come apart again.
* `splitLast_append_cons`: the last separator is the one behind which there is none.
* `mem_splitOn_or_eq`: nothing but separators is lost.
* `occurs_iff`: where a word occurs.
* `splitAround_append_cons`: a list is cut where a word stands first.
* `infix_append_iff_right`, `infix_append_iff_left`: where a word does not begin or end.
* `exists_trim`, `of_getLast?_trimEnd`, `of_head?_trim`: what is trimmed.
-/

namespace ImageSync.Text

variable {α β : Type} [DecidableEq α] [DecidableEq β]

theorem splitLast_append_cons {c : α} (a : List α) {b : List α} (h : c ∉ b) :
    splitLast c (a ++ c :: b) = some (a, b) := by
  induction a with
  | nil => simp [splitLast, splitLast_eq_none_iff.2 h]
  | cons x a ih => simp [splitLast, ih]

theorem splitOn_of_notMem {c : α} {l : List α} (h : c ∉ l) : splitOn c l = [l] := by
  induction l with
  | nil => rfl
  | cons x l ih =>
      simp only [List.mem_cons, not_or] at h
      simp [splitOn, Ne.symm h.1, ih h.2]

/-- A separator ends one stretch and begins the next. -/
theorem splitOn_append_cons (c : α) (a b : List α) :
    splitOn c (a ++ c :: b) = splitOn c a ++ splitOn c b := by
  induction a with
  | nil => simp [splitOn]
  | cons x a ih =>
      by_cases hx : x = c
      · simp [splitOn, hx, ih]
      · cases hs : splitOn c a with
        | nil => exact absurd hs (splitOn_ne_nil c a)
        | cons p ps => simp [splitOn, hx, ih, hs]

/-- Stretches without the separator come apart again after they were joined. -/
theorem splitOn_joinWith {c : α} {ls : List (List α)} (hne : ls ≠ []) (h : ∀ l ∈ ls, c ∉ l) :
    splitOn c (joinWith c ls) = ls := by
  induction ls with
  | nil => exact absurd rfl hne
  | cons l rest ih =>
      have hl : c ∉ l := h l List.mem_cons_self
      cases rest with
      | nil => exact splitOn_of_notMem hl
      | cons l' rest =>
          rw [joinWith, splitOn_append_cons, splitOn_of_notMem hl,
            ih (by simp) fun m hm => h m (List.mem_cons_of_mem l hm)]
          · rfl
          · simp

omit [DecidableEq α] in
theorem joinWith_concat (c : α) {ls : List (List α)} (hne : ls ≠ []) (l : List α) :
    joinWith c (ls ++ [l]) = joinWith c ls ++ c :: l := by
  induction ls with
  | nil => exact absurd rfl hne
  | cons m ls ih =>
      cases ls with
      | nil => rfl
      | cons m' ls =>
          have hrest := ih (by simp)
          simp only [List.cons_append, joinWith] at hrest ⊢
          rw [hrest, List.append_assoc]
          rfl

theorem notMem_of_mem_splitOn {c : α} {l p : List α} (h : p ∈ splitOn c l) : c ∉ p := by
  induction l generalizing p with
  | nil =>
      rw [splitOn, List.mem_singleton] at h
      simp [h]
  | cons x l ih =>
      rw [splitOn] at h
      split at h
      · rcases List.mem_cons.1 h with rfl | h
        · simp
        · exact ih h
      · rename_i hx
        cases hs : splitOn c l with
        | nil => exact absurd hs (splitOn_ne_nil c l)
        | cons q qs =>
            rw [hs] at h ih
            rcases List.mem_cons.1 h with rfl | h
            · simp [Ne.symm hx, ih List.mem_cons_self]
            · exact ih (List.mem_cons_of_mem q h)

theorem mem_of_mem_splitOn {c x : α} {l p : List α} (hp : p ∈ splitOn c l) (hx : x ∈ p) :
    x ∈ l := by
  induction l generalizing p with
  | nil =>
      rw [splitOn, List.mem_singleton] at hp
      rwa [hp] at hx
  | cons y l ih =>
      rw [splitOn] at hp
      split at hp
      · rcases List.mem_cons.1 hp with rfl | hp
        · cases hx
        · exact List.mem_cons_of_mem y (ih hp hx)
      · cases hs : splitOn c l with
        | nil => exact absurd hs (splitOn_ne_nil c l)
        | cons q qs =>
            rw [hs] at hp ih
            rcases List.mem_cons.1 hp with rfl | hp
            · rcases List.mem_cons.1 hx with rfl | hx
              · exact List.mem_cons_self
              · exact List.mem_cons_of_mem y (ih List.mem_cons_self hx)
            · exact List.mem_cons_of_mem y (ih (List.mem_cons_of_mem q hp) hx)

/-- Nothing but the separator is lost by cutting. -/
theorem mem_splitOn_or_eq {c x : α} {l : List α} (h : x ∈ l) :
    x = c ∨ ∃ p ∈ splitOn c l, x ∈ p := by
  induction l with
  | nil => simp at h
  | cons y l ih =>
      rw [splitOn]
      split
      · rename_i hy
        rcases List.mem_cons.1 h with rfl | h
        · exact .inl hy
        · rcases ih h with hx | ⟨p, hp, hx⟩
          · exact .inl hx
          · exact .inr ⟨p, List.mem_cons_of_mem _ hp, hx⟩
      · cases hs : splitOn c l with
        | nil => exact absurd hs (splitOn_ne_nil c l)
        | cons q qs =>
            rcases List.mem_cons.1 h with rfl | h
            · exact .inr ⟨x :: q, List.mem_cons_self, List.mem_cons_self⟩
            · rcases ih h with hx | ⟨p, hp, hx⟩
              · exact .inl hx
              · rw [hs] at hp
                rcases List.mem_cons.1 hp with rfl | hp
                · exact .inr ⟨y :: p, List.mem_cons_self, List.mem_cons_of_mem y hx⟩
                · exact .inr ⟨p, List.mem_cons_of_mem _ hp, hx⟩

/-- What stands before the first separator, or all of a list without one. -/
theorem fst_splitFirst_getD (c : α) (l : List α) :
    ((splitFirst c l).getD (l, [])).1 = l.takeWhile fun x => x ≠ c := by
  induction l with
  | nil => rfl
  | cons x l ih =>
      by_cases hx : x = c
      · simp [splitFirst, hx]
      · rw [List.takeWhile_cons_of_pos (by simpa using hx), ← ih, splitFirst, if_neg hx]
        cases splitFirst c l <;> rfl

/-- Whether a list begins with a word is seen before an element that the word does not hold. -/
theorem isPrefixOf_append_cons {w : List α} {c : α} (hc : c ∉ w) (a b : List α) :
    w.isPrefixOf (a ++ c :: b) = w.isPrefixOf a := by
  induction w generalizing a with
  | nil => simp
  | cons x w ih =>
      simp only [List.mem_cons, not_or] at hc
      cases a with
      | nil => simp [List.isPrefixOf, Ne.symm hc.1]
      | cons y a => simp [List.isPrefixOf, ih hc.2]

/-- A word occurs where it is a part of a list. -/
theorem occurs_iff {w l : List α} : occurs w l = true ↔ w <:+: l := by
  induction l with
  | nil => simp [occurs, splitAround]
  | cons x l ih =>
      rw [List.infix_cons_iff, ← ih, ← List.isPrefixOf_iff_prefix, occurs, splitAround, occurs]
      split
      · next h => simp [h]
      · next h => simp [h]

/-- Cutting around a word loses nothing but the word, and the first part does not hold it. -/
theorem eq_append_of_splitAround {w l a b : List α} (hne : w ≠ [])
    (h : splitAround w l = some (a, b)) : l = a ++ (w ++ b) ∧ ¬w <:+: a := by
  induction l generalizing a with
  | nil => simp [splitAround, hne] at h
  | cons x l ih =>
      rw [splitAround] at h
      split at h
      · next hw =>
        cases h
        refine ⟨?_, by simpa using hne⟩
        rw [List.nil_append, List.prefix_iff_eq_append.1 (List.isPrefixOf_iff_prefix.1 hw)]
      · next hw =>
        obtain ⟨⟨a', b'⟩, hrest, heq⟩ := Option.map_eq_some_iff.1 h
        cases heq
        obtain ⟨rfl, hnot⟩ := ih hrest
        refine ⟨rfl, fun hinfix => ?_⟩
        rcases List.infix_cons_iff.1 hinfix with hfront | hinfix
        · exact hw (List.isPrefixOf_iff_prefix.2 (hfront.trans (List.prefix_append ..)))
        · exact hnot hinfix

/-- A word whose first element is not repeated in it is cut around where it stands first. -/
theorem splitAround_append_cons {c : α} {w a : List α} (hc : c ∉ w) (h : ¬c :: w <:+: a)
    (b : List α) : splitAround (c :: w) (a ++ c :: (w ++ b)) = some (a, b) := by
  induction a with
  | nil =>
      have hfront : (c :: w).isPrefixOf (c :: (w ++ b)) = true :=
        List.isPrefixOf_iff_prefix.2 (List.prefix_append (c :: w) b)
      simp [splitAround, hfront]
  | cons x a ih =>
      rw [List.infix_cons_iff, not_or] at h
      -- No other occurrence begins here: it would end before the first element of the word.
      have hfront : (c :: w).isPrefixOf (x :: (a ++ c :: (w ++ b))) = false := by
        rw [List.isPrefixOf, isPrefixOf_append_cons hc, ← List.isPrefixOf, Bool.eq_false_iff, ne_eq,
          List.isPrefixOf_iff_prefix]
        exact h.1
      rw [List.cons_append, splitAround, hfront, ih h.2]
      rfl

omit [DecidableEq α] in
/-- A word does not begin in a part that does not hold its first element. -/
theorem infix_append_iff_right {w a : List α} (hne : w ≠ [])
    (h : ∀ x, w.head? = some x → x ∉ a) (b : List α) : w <:+: a ++ b ↔ w <:+: b := by
  induction a with
  | nil => rfl
  | cons x a ih =>
      have hfirst : ¬w <+: x :: (a ++ b) := by
        obtain ⟨y, w, rfl⟩ := List.exists_cons_of_ne_nil hne
        intro hw
        obtain ⟨rfl, -⟩ := List.cons_prefix_cons.1 hw
        exact h y rfl List.mem_cons_self
      rw [List.cons_append, List.infix_cons_iff, or_iff_right hfirst]
      exact ih fun y hy hmem => h y hy (List.mem_cons_of_mem x hmem)

omit [DecidableEq α] in
/-- A word does not end in a part that does not hold its last element. -/
theorem infix_append_iff_left {w b : List α} (hne : w ≠ [])
    (h : ∀ x, w.getLast? = some x → x ∉ b) (a : List α) : w <:+: a ++ b ↔ w <:+: a := by
  rw [← List.reverse_infix, List.reverse_append, infix_append_iff_right (by simpa using hne)
    (fun x hx hmem => h x (by simpa using hx) (by simpa using hmem)), List.reverse_infix]

omit [DecidableEq α] in
/-- Only the end of a list is trimmed at its end. -/
theorem exists_trimEnd (p : α → Bool) (l : List α) :
    ∃ rest, l = trimEnd p l ++ rest ∧ ∀ x ∈ rest, p x = true := by
  refine ⟨(l.reverse.takeWhile p).reverse, ?_, fun x hx => ?_⟩
  · rw [trimEnd, ← List.reverse_append, List.takeWhile_append_dropWhile, List.reverse_reverse]
  · exact List.all_eq_true.1 List.all_takeWhile x (List.mem_reverse.1 hx)

omit [DecidableEq α] in
/-- Only the beginning and the end of a list are trimmed. -/
theorem exists_trim (p : α → Bool) (l : List α) : ∃ front back, l = front ++ (trim p l ++ back) ∧
    (∀ x ∈ front, p x = true) ∧ ∀ x ∈ back, p x = true := by
  obtain ⟨back, hback, hall⟩ := exists_trimEnd p (trimStart p l)
  refine ⟨l.takeWhile p, back, ?_, fun x hx => List.all_eq_true.1 List.all_takeWhile x hx, hall⟩
  rw [trim, ← hback, List.takeWhile_append_dropWhile]

omit [DecidableEq α] in
theorem trimEnd_eq_self {p : α → Bool} {l : List α} (h : ∀ x, l.getLast? = some x → p x = false) :
    trimEnd p l = l := by
  rcases List.eq_nil_or_concat l with rfl | ⟨init, x, rfl⟩
  · rfl
  · have hx : p x = false := h x (by simp)
    simp [trimEnd, hx]

omit [DecidableEq α] in
/-- What is trimmed at its end does not end with what is trimmed. -/
theorem of_getLast?_trimEnd {p : α → Bool} {l : List α} {x : α}
    (h : (trimEnd p l).getLast? = some x) : p x = false := by
  have hhead := List.head?_dropWhile_not p l.reverse
  rw [trimEnd, List.getLast?_reverse] at h
  rwa [h] at hhead

omit [DecidableEq α] in
/-- A trimmed list does not begin with what is trimmed. -/
theorem of_head?_trim {p : α → Bool} {l : List α} {x : α} (h : (trim p l).head? = some x) :
    p x = false := by
  obtain ⟨rest, hrest, -⟩ := exists_trimEnd p (trimStart p l)
  have hfirst : (trimStart p l).head? = some x := by
    rw [trim] at h
    rw [hrest, List.head?_append, h, Option.some_or]
  have hhead := List.head?_dropWhile_not p l
  rwa [hfirst] at hhead

omit [DecidableEq α] in
theorem trimEnd_append_of_forall {p : α → Bool} {a b : List α} (hb : ∀ x ∈ b, p x = true) :
    trimEnd p (a ++ b) = trimEnd p a := by
  rw [trimEnd, trimEnd, List.reverse_append,
    List.dropWhile_append_of_pos fun x hx => hb x (List.mem_reverse.1 hx)]

omit [DecidableEq α] in
/-- A stretch inside `p` ends where a list goes on outside `p`. -/
theorem takeWhile_dropWhile_append {p : α → Bool} {a b : List α} (ha : ∀ x ∈ a, p x = true)
    (hb : ∀ x, b.head? = some x → p x = false) :
    (a ++ b).takeWhile p = a ∧ (a ++ b).dropWhile p = b := by
  rw [List.takeWhile_append_of_pos ha, List.dropWhile_append_of_pos ha]
  cases b with
  | nil => simp
  | cons x b => simp [hb x rfl]

namespace Utf8

@[simp] theorem size_reverse (cs : List Char) : size cs.reverse = size cs := by
  induction cs with
  | nil => rfl
  | cons c cs ih => rw [List.reverse_cons, size_append, ih, size_cons, size_cons, size_nil]; omega

/-- A part of a text has no more bytes than the text. -/
theorem size_le_of_prefix {a b : List Char} (h : a <+: b) : size a ≤ size b := by
  obtain ⟨rest, rfl⟩ := h
  rw [size_append]
  exact Nat.le_add_right _ _

theorem size_le_of_suffix {a b : List Char} (h : a <:+ b) : size a ≤ size b := by
  obtain ⟨rest, rfl⟩ := h
  rw [size_append]
  exact Nat.le_add_left _ _

theorem length_le_size (cs : List Char) : cs.length ≤ size cs := by
  induction cs with
  | nil => exact Nat.le_refl 0
  | cons c cs ih =>
      have hc : 0 < c.utf8Size := c.utf8Size_pos
      rw [size_cons, List.length_cons]
      omega

/-- A text of ASCII characters has as many bytes as characters. -/
theorem size_eq_length_of_ascii {cs : List Char} (h : ∀ c ∈ cs, c.toNat < 128) :
    size cs = cs.length := by
  induction cs with
  | nil => rfl
  | cons c cs ih =>
      have hc : c.utf8Size = 1 := by
        have hlt : c.val.toNat < 128 := h c List.mem_cons_self
        have hle : c.val ≤ 0x7F := UInt32.le_iff_toNat_le.2 (Nat.le_of_lt_succ hlt)
        simp [Char.utf8Size, hle]
      rw [size_cons, hc, ih fun d hd => h d (List.mem_cons_of_mem c hd), List.length_cons,
        Nat.add_comm]

end Utf8

end ImageSync.Text
