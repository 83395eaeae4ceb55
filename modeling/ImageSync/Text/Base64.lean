/-!
# Base64

The encoding of bytes in 64 printable characters, with padding. Three bytes become four characters;
a last group of one or two bytes is padded with `=` signs.

## Main definitions

* `encode`: bytes to characters.
* `decode?`: back again; only what `encode` writes is read.

## Main statements

* `decode?_encode`: what was written is read.
-/

namespace ImageSync.Text.Base64

/-- The character of a six-bit digit. -/
def digit (n : Nat) : Char :=
  if n < 26 then Char.ofNat (n + 65)
  else if n < 52 then Char.ofNat (n - 26 + 97)
  else if n < 62 then Char.ofNat (n - 52 + 48)
  else if n = 62 then '+'
  else '/'

/-- The six-bit digit of a character. -/
def digitValue? (c : Char) : Option Nat :=
  if 'A' ≤ c ∧ c ≤ 'Z' then some (c.toNat - 65)
  else if 'a' ≤ c ∧ c ≤ 'z' then some (c.toNat - 97 + 26)
  else if '0' ≤ c ∧ c ≤ '9' then some (c.toNat - 48 + 52)
  else if c = '+' then some 62
  else if c = '/' then some 63
  else none

/-- The four characters of three bytes. -/
private def group (a b c : UInt8) : List Char :=
  let n := a.toNat * 65536 + b.toNat * 256 + c.toNat
  [digit (n / 262144), digit (n / 4096 % 64), digit (n / 64 % 64), digit (n % 64)]

/-- The bytes in 64 printable characters, padded to a multiple of four. -/
def encode : List UInt8 → List Char
  | [] => []
  | [a] => (group a 0 0).take 2 ++ ['=', '=']
  | [a, b] => (group a b 0).take 3 ++ ['=']
  | a :: b :: c :: rest => group a b c ++ encode rest

/-- The bytes that a padded text of 64 printable characters stands for. Unused bits have to be
zero. -/
def decode? : List Char → Option (List UInt8)
  | [] => some []
  | [w, x, '=', '='] => do
    let n := (← digitValue? w) * 64 + (← digitValue? x)
    if n % 16 = 0 then some [UInt8.ofNat (n / 16)] else none
  | [w, x, y, '='] => do
    let n := ((← digitValue? w) * 64 + (← digitValue? x)) * 64 + (← digitValue? y)
    if n % 4 = 0 then some [UInt8.ofNat (n / 1024), UInt8.ofNat (n / 4)] else none
  | w :: x :: y :: z :: rest => do
    let n := (((← digitValue? w) * 64 + (← digitValue? x)) * 64 + (← digitValue? y)) * 64 +
      (← digitValue? z)
    let bytes ← decode? rest
    some (UInt8.ofNat (n / 65536) :: UInt8.ofNat (n / 256) :: UInt8.ofNat n :: bytes)
  | _ => none


/-! ## What was written is read -/

/-- Every digit has a character of its own. -/
theorem digitValue?_digit {n : Nat} (h : n < 64) : digitValue? (digit n) = some n := by
  revert n
  decide

/-- The padding is no digit. -/
theorem digit_ne {n : Nat} (h : n < 64) : digit n ≠ '=' := by
  revert n
  decide

/-- Three bytes are four digits of one number. -/
private theorem group_eq (a b c : UInt8) : ∃ w x y z,
    group a b c = [digit w, digit x, digit y, digit z] ∧ w < 64 ∧ x < 64 ∧ y < 64 ∧ z < 64 ∧
      ((w * 64 + x) * 64 + y) * 64 + z = a.toNat * 65536 + b.toNat * 256 + c.toNat := by
  have ha : a.toNat < 256 := a.toNat_lt
  have hb : b.toNat < 256 := b.toNat_lt
  have hc : c.toNat < 256 := c.toNat_lt
  exact ⟨_, _, _, _, rfl, by omega, by omega, by omega, by omega, by omega⟩

/-- The byte in the last eight bits of a number. -/
private theorem ofNat_eq {n k : Nat} {a : UInt8} (h : n = k * 256 + a.toNat) :
    UInt8.ofNat n = a := by
  rw [h]
  apply UInt8.toNat_inj.mp
  rw [UInt8.toNat_ofNat']
  have ha : a.toNat < 256 := a.toNat_lt
  omega

/-- Reading a group of four digits. -/
private theorem decode?_digits {w x y z : Nat} (hw : w < 64) (hx : x < 64) (hy : y < 64)
    (hz : z < 64) (rest : List Char) :
    decode? (digit w :: digit x :: digit y :: digit z :: rest) =
      (decode? rest).map fun bytes =>
        let n := ((w * 64 + x) * 64 + y) * 64 + z
        UInt8.ofNat (n / 65536) :: UInt8.ofNat (n / 256) :: UInt8.ofNat n :: bytes := by
  rw [decode?]
  · simp only [digitValue?_digit hw, digitValue?_digit hx, digitValue?_digit hy,
      digitValue?_digit hz, Option.bind_eq_bind, Option.bind_some]
    cases decode? rest <;> rfl
  · intro h
    exact absurd h (digit_ne hy)
  · intro h
    exact absurd h (digit_ne hz)

/-- What was written is read. -/
theorem decode?_encode (bs : List UInt8) : decode? (encode bs) = some bs := by
  fun_induction encode bs with
  | case1 => rfl
  | case2 a =>
      obtain ⟨w, x, y, z, hgroup, hw, hx, hy, hz, hn⟩ := group_eq a 0 0
      have hzero : (0 : UInt8).toNat = 0 := rfl
      rw [hgroup]
      show decode? [digit w, digit x, '=', '='] = some [a]
      rw [decode?, digitValue?_digit hw, digitValue?_digit hx]
      show (if (w * 64 + x) % 16 = 0 then some [UInt8.ofNat ((w * 64 + x) / 16)] else none) = _
      rw [if_pos (by omega), ofNat_eq (k := 0) (a := a) (by omega)]
  | case3 a b =>
      obtain ⟨w, x, y, z, hgroup, hw, hx, hy, hz, hn⟩ := group_eq a b 0
      have hzero : (0 : UInt8).toNat = 0 := rfl
      have hb : b.toNat < 256 := b.toNat_lt
      rw [hgroup]
      show decode? [digit w, digit x, digit y, '='] = some [a, b]
      rw [decode?, digitValue?_digit hw, digitValue?_digit hx, digitValue?_digit hy]
      · show (if ((w * 64 + x) * 64 + y) % 4 = 0 then
          some [UInt8.ofNat (((w * 64 + x) * 64 + y) / 1024),
            UInt8.ofNat (((w * 64 + x) * 64 + y) / 4)] else none) = _
        rw [if_pos (by omega), ofNat_eq (k := 0) (a := a) (by omega),
          ofNat_eq (k := a.toNat) (a := b) (by omega)]
      · exact digit_ne hy
  | case4 a b c rest ih =>
      obtain ⟨w, x, y, z, hgroup, hw, hx, hy, hz, hn⟩ := group_eq a b c
      have hb : b.toNat < 256 := b.toNat_lt
      have hc : c.toNat < 256 := c.toNat_lt
      rw [hgroup]
      show decode? (digit w :: digit x :: digit y :: digit z :: encode rest) = _
      rw [decode?_digits hw hx hy hz, ih]
      have h₁ : UInt8.ofNat ((((w * 64 + x) * 64 + y) * 64 + z) / 65536) = a :=
        ofNat_eq (k := 0) (by omega)
      have h₂ : UInt8.ofNat ((((w * 64 + x) * 64 + y) * 64 + z) / 256) = b :=
        ofNat_eq (k := a.toNat) (by omega)
      have h₃ : UInt8.ofNat (((w * 64 + x) * 64 + y) * 64 + z) = c :=
        ofNat_eq (k := a.toNat * 256 + b.toNat) (by rw [hn, Nat.add_mul, Nat.mul_assoc])
      simp only [Option.map_some, h₁, h₂, h₃]

end ImageSync.Text.Base64
