import ImageSync.Copy.Tool
import ImageSync.Proofs.Text.Excerpt
import ImageSync.Registry.Listing

/-!
# Cuts between characters

A text is cut at a position in its bytes, and there are positions inside of characters. So the place
of the cut is searched for: from the limit forward if the end of the text is kept, and back if its
beginning is. Here the search is done on bytes, where it may leave the text and a cut may fall inside a
character. Neither happens, and what is kept are the bytes of the excerpt.

## Main definitions

* `Utf8.isBoundary bytes i`: whether no character lies on both sides of a position.
* `Utf8.boundaryFrom?`, `Utf8.boundaryTo?`: the search for such a position forward and back.
* `Utf8.behind?`, `Utf8.before?`: the parts of a text at a position.
* `Excerpt.tailBytes?`, `Excerpt.headBytes?`: excerpts on bytes.

## Main statements

* `Utf8.isBoundary_encode_iff`: the boundaries are where the parts of a text end.
* `Excerpt.tailBytes?_encode`, `Excerpt.headBytes?_encode`: the excerpts of the text.
* `Excerpt.excerpts_exact`: what errors quote of a complaint and of an answer.
-/

namespace ImageSync.Text.Utf8

/-! ## Boundaries -/

/-- Whether a character begins at a position in the bytes of a text, or the text ends there. -/
def isBoundary (bytes : List UInt8) (i : Nat) : Bool :=
  match bytes[i]? with
  | some b => b.IsUTF8FirstByte
  | none => i == bytes.length

/-- The first boundary at a position or behind it; `none` if the search leaves the text. -/
def boundaryFrom? (bytes : List UInt8) (i : Nat) : Option Nat :=
  if isBoundary bytes i then some i
  else if i < bytes.length then boundaryFrom? bytes (i + 1)
  else none
termination_by bytes.length - i

/-- The last boundary at a position or before it; `none` if the search leaves the text. -/
def boundaryTo? (bytes : List UInt8) (i : Nat) : Option Nat :=
  if isBoundary bytes i then some i
  else
    match i with
    | 0 => none
    | i + 1 => boundaryTo? bytes i

/-- The bytes behind a position that is a boundary. -/
def behind? (bytes : List UInt8) (i : Nat) : Option (List UInt8) :=
  if isBoundary bytes i then some (bytes.drop i) else none

/-- The bytes before a position that is a boundary. -/
def before? (bytes : List UInt8) (i : Nat) : Option (List UInt8) :=
  if isBoundary bytes i then some (bytes.take i) else none

theorem le_length_of_isBoundary {bytes : List UInt8} {i : Nat} (h : isBoundary bytes i = true) :
    i ≤ bytes.length := by
  rw [isBoundary] at h
  split at h
  · next hbyte => exact Nat.le_of_lt (List.getElem?_eq_some_iff.1 hbyte).1
  · exact Nat.le_of_eq (beq_iff_eq.1 h)

/-- The search forward ends at the first boundary, by induction on the way to it. -/
theorem boundaryFrom?_eq_some {bytes : List UInt8} {i j : Nat} (hle : i ≤ j)
    (hj : isBoundary bytes j = true) (h : ∀ k, i ≤ k → isBoundary bytes k = true → j ≤ k) :
    boundaryFrom? bytes i = some j := by
  have hlength := le_length_of_isBoundary hj
  obtain ⟨d, rfl⟩ := Nat.exists_eq_add_of_le hle
  induction d generalizing i with
  | zero => rw [boundaryFrom?, if_pos (by simpa using hj), Nat.add_zero]
  | succ d ih =>
      have hi : isBoundary bytes i ≠ true := fun hi => by
        have := h i (Nat.le_refl i) hi
        omega
      have hnext : i + 1 + d = i + (d + 1) := by omega
      rw [boundaryFrom?, if_neg hi, if_pos (by omega), ← hnext]
      rw [← hnext] at hj h hlength
      exact ih (by omega) hj (fun k hk => h k (by omega)) hlength

/-- The search back ends at the last boundary. -/
theorem boundaryTo?_eq_some {bytes : List UInt8} {i j : Nat} (hle : j ≤ i)
    (hj : isBoundary bytes j = true) (h : ∀ k, k ≤ i → isBoundary bytes k = true → k ≤ j) :
    boundaryTo? bytes i = some j := by
  induction i with
  | zero =>
      obtain rfl : j = 0 := Nat.le_zero.1 hle
      rw [boundaryTo?, if_pos hj]
  | succ i ih =>
      by_cases hi : isBoundary bytes (i + 1) = true
      · obtain rfl : j = i + 1 := Nat.le_antisymm hle (h (i + 1) (Nat.le_refl _) hi)
        rw [boundaryTo?, if_pos hj]
      · have hne : j ≠ i + 1 := fun heq => hi (heq ▸ hj)
        rw [boundaryTo?, if_neg hi]
        exact ih (by omega) fun k hk => h k (Nat.le_succ_of_le hk)

/-! ## Boundaries of texts -/

/-- The bytes of a character have one boundary before their end, and behind them the boundaries are
those of what follows. -/
theorem isBoundary_utf8EncodeChar_append (c : Char) (bytes : List UInt8) (i : Nat) :
    isBoundary (String.utf8EncodeChar c ++ bytes) i =
      if i < c.utf8Size then i == 0 else isBoundary bytes (i - c.utf8Size) := by
  have hlength : (String.utf8EncodeChar c).length = c.utf8Size := String.length_utf8EncodeChar c
  by_cases hi : i < c.utf8Size
  · rw [if_pos hi, isBoundary, List.getElem?_append_left (by omega),
      List.getElem?_eq_getElem (by omega)]
    simp only [UInt8.isUTF8FirstByte_getElem_utf8EncodeChar]
    rw [Bool.eq_iff_iff, decide_eq_true_iff, beq_iff_eq]
  · rw [if_neg hi, isBoundary, isBoundary, List.getElem?_append_right (by omega), hlength,
      List.length_append, hlength]
    cases bytes[i - c.utf8Size]? with
    | some b => rfl
    | none =>
        simp only
        rw [Bool.eq_iff_iff, beq_iff_eq, beq_iff_eq]
        omega

/-- The boundaries of a text are the sizes of the parts that it begins with. -/
theorem isBoundary_encode_iff {cs : List Char} {i : Nat} :
    isBoundary (encode cs) i = true ↔ ∃ front rest, cs = front ++ rest ∧ size front = i := by
  induction cs generalizing i with
  | nil =>
      rw [isBoundary, encode_nil, List.getElem?_nil]
      constructor
      · intro h
        exact ⟨[], [], rfl, (beq_iff_eq.1 h).symm⟩
      · rintro ⟨front, rest, hcs, rfl⟩
        obtain ⟨rfl, -⟩ := List.append_eq_nil_iff.1 hcs.symm
        rfl
  | cons c cs ih =>
      have hpos : 0 < c.utf8Size := c.utf8Size_pos
      rw [encode, List.flatMap_cons, ← encode, isBoundary_utf8EncodeChar_append]
      split
      · next hi =>
        rw [beq_iff_eq]
        constructor
        · rintro rfl
          exact ⟨[], c :: cs, rfl, rfl⟩
        · rintro ⟨front, rest, hcs, rfl⟩
          cases front with
          | nil => rfl
          | cons d front =>
              obtain ⟨rfl, -⟩ := List.cons.inj hcs
              rw [size_cons] at hi
              omega
      · next hi =>
        rw [ih]
        constructor
        · rintro ⟨front, rest, rfl, hsize⟩
          exact ⟨c :: front, rest, rfl, by rw [size_cons]; omega⟩
        · rintro ⟨front, rest, hcs, rfl⟩
          cases front with
          | nil => exact absurd hpos hi
          | cons d front =>
              obtain ⟨rfl, rfl⟩ := List.cons.inj hcs
              exact ⟨front, rest, rfl, by rw [size_cons]; omega⟩

theorem isBoundary_encode_append (front rest : List Char) :
    isBoundary (encode (front ++ rest)) (size front) = true :=
  isBoundary_encode_iff.2 ⟨front, rest, rfl, rfl⟩

theorem behind?_encode_append (front rest : List Char) :
    behind? (encode (front ++ rest)) (size front) = some (encode rest) := by
  rw [behind?, if_pos (isBoundary_encode_append front rest), encode_append, ← length_encode,
    List.drop_left]

theorem before?_encode_append (front rest : List Char) :
    before? (encode (front ++ rest)) (size front) = some (encode front) := by
  rw [before?, if_pos (isBoundary_encode_append front rest), encode_append, ← length_encode,
    List.take_left]

end ImageSync.Text.Utf8

namespace ImageSync.Text.Excerpt

/-! ## Excerpts on bytes -/

/-- An excerpt of the end of a text, on the bytes of the trimmed text: the search for the place of the
cut goes forward from the limit. -/
def tailBytes? (limit : Nat) (text : List UInt8) : Option (List UInt8) :=
  if text.length ≤ limit then some text
  else do
    let start ← Utf8.boundaryFrom? text (text.length - limit)
    let kept ← Utf8.behind? text start
    return Utf8.encode "...".toList ++ kept

/-- An excerpt of the beginning of a text, on the bytes of the trimmed text: the search for the place
of the cut goes back from the limit. -/
def headBytes? (limit : Nat) (text : List UInt8) : Option (List UInt8) :=
  if limit < text.length then do
    let stop ← Utf8.boundaryTo? text limit
    let kept ← Utf8.before? text stop
    return kept ++ Utf8.encode "... (truncated)".toList
  else some text

/-- The search forward comes to where the longest part at the end begins: at a boundary before it
there would begin a longer part. -/
theorem boundaryFrom?_encode {n : Nat} {cs front : List Char}
    (hcs : cs = front ++ fittingEnd n cs) :
    Utf8.boundaryFrom? (Utf8.encode cs) (Utf8.size cs - n) = some (Utf8.size front) := by
  have hkept := isLongest_fittingEnd n cs
  have hsize : Utf8.size cs = Utf8.size front + Utf8.size (fittingEnd n cs) := by
    rw [← Utf8.size_append, ← hcs]
  have hfront : Utf8.isBoundary (Utf8.encode cs) (Utf8.size front) = true :=
    Utf8.isBoundary_encode_iff.2 ⟨front, _, hcs, rfl⟩
  refine Utf8.boundaryFrom?_eq_some (by have := hkept.size_le; omega) hfront fun k hk hboundary => ?_
  obtain ⟨front', rest, hcs', rfl⟩ := Utf8.isBoundary_encode_iff.1 hboundary
  have hsize' : Utf8.size cs = Utf8.size front' + Utf8.size rest := by
    rw [← Utf8.size_append, ← hcs']
  have hrest : Utf8.size rest ≤ Utf8.size (fittingEnd n cs) :=
    hkept.longest rest ⟨front', hcs'.symm⟩ (by omega)
  omega

/-- The search back comes to where the longest part at the beginning ends. -/
theorem boundaryTo?_encode (n : Nat) (cs : List Char) :
    Utf8.boundaryTo? (Utf8.encode cs) n = some (Utf8.size (fitting n cs)) := by
  have hkept := isLongest_fitting n cs
  obtain ⟨rest, hcs⟩ := hkept.isPart
  have hfront : Utf8.isBoundary (Utf8.encode cs) (Utf8.size (fitting n cs)) = true :=
    Utf8.isBoundary_encode_iff.2 ⟨_, rest, hcs.symm, rfl⟩
  refine Utf8.boundaryTo?_eq_some hkept.size_le hfront fun k hk hboundary => ?_
  obtain ⟨front, rest', hcs', rfl⟩ := Utf8.isBoundary_encode_iff.1 hboundary
  exact hkept.longest front ⟨rest', hcs'.symm⟩ hk

/-- On bytes the excerpt of the end is the same: the search does not leave the text, and the cut does
not fall inside a character. -/
theorem tailBytes?_encode (limit : Nat) (cs : List Char) :
    tailBytes? limit (Utf8.encode (trim isBlank cs)) = some (Utf8.encode (tail limit cs)) := by
  rw [tailBytes?, tail, Utf8.length_encode]
  split
  · rfl
  · obtain ⟨front, hcs⟩ := (isLongest_fittingEnd limit (trim isBlank cs)).isPart
    have hbehind := Utf8.behind?_encode_append front (fittingEnd limit (trim isBlank cs))
    rw [hcs] at hbehind
    rw [boundaryFrom?_encode hcs.symm, Option.bind_eq_bind, Option.bind_some, hbehind,
      Utf8.encode_append]
    rfl

/-- On bytes the excerpt of the beginning is the same. -/
theorem headBytes?_encode (limit : Nat) (cs : List Char) :
    headBytes? limit (Utf8.encode (trim isBlank cs)) = some (Utf8.encode (head limit cs)) := by
  rw [headBytes?, head, Utf8.length_encode]
  by_cases hsize : Utf8.size (trim isBlank cs) ≤ limit
  · rw [if_neg (by omega), if_pos hsize]
  · obtain ⟨rest, hcs⟩ := (isLongest_fitting limit (trim isBlank cs)).isPart
    have hbefore := Utf8.before?_encode_append (fitting limit (trim isBlank cs)) rest
    rw [hcs] at hbefore
    rw [if_pos (by omega), if_neg hsize, boundaryTo?_encode, Option.bind_eq_bind, Option.bind_some,
      hbefore, Utf8.encode_append]
    rfl

/-- What is shown of a text of which at most `limit` bytes may be shown, and the last ones are: all of
it, or a mark and the longest part at its end that fits. -/
structure IsTail (limit : Nat) (text shown : List Char) : Prop where
  bytes_eq : tailBytes? limit (Utf8.encode text) = some (Utf8.encode shown)
  whole : Utf8.size text ≤ limit → shown = text
  cut : limit < Utf8.size text → ∃ part, shown = "...".toList ++ part ∧
    IsLongest (· <:+ text) limit part ∧ limit ≤ Utf8.size part + 3

/-- The same where the first ones are shown, with the mark behind them. -/
structure IsHead (limit : Nat) (text shown : List Char) : Prop where
  bytes_eq : headBytes? limit (Utf8.encode text) = some (Utf8.encode shown)
  whole : Utf8.size text ≤ limit → shown = text
  cut : limit < Utf8.size text → ∃ part, shown = part ++ "... (truncated)".toList ∧
    IsLongest (· <+: text) limit part ∧ limit ≤ Utf8.size part + 3

theorem isTail_tail (limit : Nat) (cs : List Char) :
    IsTail limit (trim isBlank cs) (tail limit cs) where
  bytes_eq := tailBytes?_encode limit cs
  whole hsize := if_pos hsize
  cut hsize :=
    ⟨_, if_neg (Nat.not_le_of_lt hsize), isLongest_fittingEnd limit _, le_size_fittingEnd hsize⟩

theorem isHead_head (limit : Nat) (cs : List Char) :
    IsHead limit (trim isBlank cs) (head limit cs) where
  bytes_eq := headBytes?_encode limit cs
  whole hsize := if_pos hsize
  cut hsize :=
    ⟨_, if_neg (Nat.not_le_of_lt hsize), isLongest_fitting limit _, le_size_fitting hsize⟩

/-- Of whatever a tool prints the error of the copy shows the end, as far as 2000 bytes go, and of
whatever a registry answers the error shows the beginning, as far as 200 bytes go. Both are the trimmed
text or its longest part that fits, without a broken character, and the search for the place of the cut
ends in the text. -/
theorem excerpts_exact :
    (∀ bytes : List UInt8, IsTail 2000 (trim isBlank (Utf8.decodeLossy bytes))
      (tail Tools.maxExcerpt (Utf8.decodeLossy bytes))) ∧
    (∀ body : List Char, IsHead 200 (trim isBlank body) (head Lister.maxExcerpt body)) ∧
    (∀ run : ToolRun, run.ended.isSuccess = false → Tools.outcome run =
      .error (.toolFailed run.ended.text
        (String.ofList (tail Tools.maxExcerpt (Utf8.decodeLossy run.stderr))))) ∧
    ∀ (repository : Reference) (answer : Http.Response),
      answer.status ≠ 401 → answer.status ≠ 403 → answer.status ≠ 404 →
      Lister.refusal repository answer =
        .status answer.status (String.ofList (head Lister.maxExcerpt answer.bodyText)) := by
  refine ⟨fun bytes => isTail_tail 2000 _, fun body => isHead_head 200 body, fun run hfailed => ?_,
    fun repository answer h401 h403 h404 => ?_⟩
  · rw [Tools.outcome, hfailed]
    rfl
  · rw [Lister.refusal, if_neg (by simp [h401, h403]), if_neg h404]

namespace Broken

/-- An answer of 201 bytes, of which the last two are one character. -/
def answer : Http.Response where
  status := 500
  headers := []
  body := Utf8.encode ('x' :: List.replicate 100 'é')

/-- A complaint of 2003 bytes, of which the fourth is the second one of a character. -/
def run : ToolRun where
  ended := .exit 1
  stderr := Utf8.encode (List.replicate 1001 'é' ++ ['x'])

end Broken

open Broken in
/-- A character that does not fit as a whole is not shown. -/
theorem excerpts_exact_broken :
    run.ended.isSuccess = false ∧
      Tools.outcome run = .error (.toolFailed "exit status: 1"
        (String.ofList ("...".toList ++ (List.replicate 999 'é' ++ ['x'])))) ∧
      answer.status ≠ 401 ∧ answer.status ≠ 403 ∧ answer.status ≠ 404 ∧
      Lister.refusal ⟨"quay.io", "app", none, none⟩ answer = .status 500
        (String.ofList ('x' :: List.replicate 99 'é' ++ "... (truncated)".toList)) := by
  obtain ⟨-, -, hrun, hanswer⟩ := excerpts_exact
  have hend : tail Tools.maxExcerpt (Utf8.decodeLossy run.stderr) =
      "...".toList ++ (List.replicate 999 'é' ++ ['x']) := by decide +kernel
  have hbeginning : head Lister.maxExcerpt answer.bodyText =
      'x' :: List.replicate 99 'é' ++ "... (truncated)".toList := by decide +kernel
  have hfailed : run.ended.isSuccess = false := rfl
  have h401 : answer.status ≠ 401 := by decide
  have h403 : answer.status ≠ 403 := by decide
  have h404 : answer.status ≠ 404 := by decide
  refine ⟨hfailed, ?_, h401, h403, h404, ?_⟩
  · rw [hrun run hfailed, hend]
    rfl
  · rw [hanswer _ answer h401 h403 h404, hbeginning]
    rfl

end ImageSync.Text.Excerpt
