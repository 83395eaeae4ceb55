/-!
# Punycode

A label of a domain name may have characters beyond ASCII. It is written in ASCII as its ASCII
characters, a hyphen, and the places and code points of the others, as a sequence of differences.
A difference is written in digits of base 36 whose thresholds follow a bias that adapts.

## Main definitions

* `encode cs`: the ASCII form of a label.
* `decode? cs`: the label of an ASCII form.
-/

namespace ImageSync.Uri.Punycode

/-- The letter of a digit: `a` to `z`, then `0` to `9`. -/
def digit (d : Nat) : Char := if d < 26 then Char.ofNat (97 + d) else Char.ofNat (22 + d)

/-- The digit of a letter, in either case. -/
def digitValue? (c : Char) : Option Nat :=
  if c.isLower then some (c.toNat - 97)
  else if c.isUpper then some (c.toNat - 65)
  else if c.isDigit then some (c.toNat - 22)
  else none

/-- The threshold at a position: a digit below it is the last. -/
def threshold (position bias : Nat) : Nat :=
  if position ≤ bias then 1 else if bias + 26 ≤ position then 26 else position - bias

theorem one_le_threshold (position bias : Nat) : 1 ≤ threshold position bias := by
  unfold threshold
  split
  · omega
  · split <;> omega

/-- Divides by 35 until at most 455 is left; `bias` counts 36 for each division. -/
def scaleDown (delta bias : Nat) : Nat :=
  if 455 < delta then scaleDown (delta / 35) (bias + 36) else bias + 36 * delta / (delta + 38)
termination_by delta
decreasing_by exact Nat.div_lt_self (by omega) (by omega)

/-- The bias after a difference; `count` characters are placed with it. -/
def adapt (delta count : Nat) (isFirst : Bool) : Nat :=
  let delta := if isFirst then delta / 700 else delta / 2
  scaleDown (delta + delta / count) 0

/-- The digits of a difference. -/
def differenceDigits (bias position n : Nat) : List Char :=
  let t := threshold position bias
  if n < t then [digit n]
  else digit (t + (n - t) % (36 - t)) :: differenceDigits bias (position + 36) ((n - t) / (36 - t))
termination_by n
decreasing_by
  have h := one_le_threshold position bias
  exact Nat.lt_of_le_of_lt (Nat.div_le_self _ _) (by omega)

/-- Where writing stands. -/
structure Written where
  text : List Char
  /-- The difference to the next character to be placed. -/
  delta : Nat
  bias : Nat
  /-- How many characters are placed. -/
  placed : Nat

/-- Passes one character of the label while those with code point `code` are placed. -/
def Written.pass (basic code : Nat) (w : Written) (c : Char) : Written :=
  if c.toNat < code then { w with delta := w.delta + 1 }
  else if c.toNat = code then {
    text := w.text ++ differenceDigits w.bias 36 w.delta, delta := 0
    bias := adapt w.delta (w.placed + 1) (w.placed = basic), placed := w.placed + 1 }
  else w

/-- Places the characters with the given code points, the smallest first; those below `from_` are
placed. -/
def Written.place (label : List Char) (basic : Nat) (from_ : Nat) (w : Written) :
    List Nat → Written
  | [] => w
  | code :: codes =>
    let w := { w with delta := w.delta + (code - from_) * (w.placed + 1) }
    let w := label.foldl (Written.pass basic code) w
    Written.place label basic (code + 1) { w with delta := w.delta + 1 } codes

/-- Whether a character is ASCII. -/
def isAscii (c : Char) : Bool := c.toNat < 128

/-- The ASCII form of a label. -/
def encode (label : List Char) : List Char :=
  let basic := label.filter isAscii
  let codes := ((label.filter fun c => !isAscii c).map Char.toNat).mergeSort.eraseDups
  let start := if basic.isEmpty then [] else basic ++ ['-']
  (Written.place label basic.length 128 ⟨start, 0, 72, basic.length⟩ codes).text

/-- Reads the digits of a difference and adds it to `n`; `weight` is that of the next digit. -/
def difference? (bias : Nat) : List Char → (position weight n : Nat) → Option (Nat × List Char)
  | [], _, _, _ => none
  | c :: rest, position, weight, n =>
    match digitValue? c with
    | none => none
    | some d =>
      let t := threshold position bias
      if d < t then some (n + d * weight, rest)
      else difference? bias rest (position + 36) (weight * (36 - t)) (n + d * weight)

theorem length_of_difference? {bias : Nat} {cs rest : List Char} {position weight n m : Nat}
    (h : difference? bias cs position weight n = some (m, rest)) : rest.length < cs.length := by
  induction cs generalizing position weight n with
  | nil => simp [difference?] at h
  | cons c cs ih =>
    rw [difference?] at h
    split at h
    · simp at h
    · simp only at h
      split at h
      · simp at h
        simp [h.2]
      · have := ih h
        simp
        omega

/-- Places the characters of the differences that are left. -/
def placeAll? (bias code place : Nat) (label : List Char) : List Char → Option (List Char)
  | [] => some label
  | c :: cs =>
    match _found : difference? bias (c :: cs) 36 1 place with
    | none => none
    | some (n, rest) =>
      let count := label.length + 1
      let code := code + n / count
      if code.isValidChar then
        placeAll? (adapt (n - place) count (place = 0)) code (n % count + 1)
          (label.insertIdx (n % count) (Char.ofNat code)) rest
      else none
termination_by cs => cs.length
decreasing_by exact length_of_difference? _found

/-- The label of an ASCII form. -/
def decode? (cs : List Char) : Option (List Char) :=
  let (back, front) := cs.reverse.span fun c => c ≠ '-'
  let basic := (front.drop 1).reverse
  placeAll? 72 128 0 basic back.reverse

end ImageSync.Uri.Punycode
