/-!
# Bytes and characters

Text is a list of characters; what a child process prints and what a file is called are bytes. A
byte string is read as a list of pieces: a piece is a character, or a maximal stretch of bytes that
no character begins with. Reading loses nothing (`bytes` gives the bytes back), and showing a piece
that is no character gives U+FFFD.

## Main definitions

* `Piece`: a character or a stray stretch of bytes.
* `pieces bs`: the bytes read as pieces.
* `decode? bs`: the characters, if every piece is one.
* `decodeLossy bs`: the characters, with U+FFFD for each stray stretch.
* `encode cs`: the bytes of a text.
* `size cs`: their number.
* `charOfByte b`: a byte as the character with its number.

## Main statements

* `length_encode`: the size is the number of bytes written.
* `pieces_encode`, `decode?_encode`: what was written is read.
-/

namespace ImageSync.Text.Utf8

/-- One character, or bytes that are no character. -/
inductive Piece where
  | char (c : Char)
  | stray (bytes : List UInt8)
deriving DecidableEq, Repr

/-- The bytes of a text. -/
def encode (cs : List Char) : List UInt8 := cs.flatMap String.utf8EncodeChar

/-- The character with the number of a byte. -/
def charOfByte (b : UInt8) : Char := Char.ofNat b.toNat

/-- The byte with the number of a character. -/
def byteOfChar (c : Char) : UInt8 := UInt8.ofNat c.toNat

/-- The number of bytes of a text. -/
def size (cs : List Char) : Nat := cs.foldr (fun c n => c.utf8Size + n) 0

namespace Piece

/-- What is shown for a piece. -/
def shown : Piece → Char
  | char c => c
  | stray _ => '\uFFFD'

/-- The bytes a piece stands for. -/
def bytes : Piece → List UInt8
  | char c => String.utf8EncodeChar c
  | stray bs => bs

/-- The character, if the piece is one. -/
def char? : Piece → Option Char
  | char c => some c
  | stray _ => none

@[simp] theorem shown_char (c : Char) : (char c).shown = c := rfl
@[simp] theorem char?_char (c : Char) : (char c).char? = some c := rfl

end Piece

/-- A character of several bytes of which only the first have been read. -/
private structure Partial where
  /-- The bytes read, last first. -/
  read : List UInt8
  /-- The value of their payload bits. -/
  value : Nat
  /-- How many bytes are to come. -/
  missing : Nat
  /-- The range in which the next byte has to lie. -/
  low : UInt8
  high : UInt8

/-- What a byte says that stands where a character begins. -/
private def begin (b : UInt8) : Piece ⊕ Partial :=
  if b < 0x80 then .inl (.char (Char.ofNat b.toNat))
  else if 0xC2 ≤ b && b ≤ 0xDF then .inr ⟨[b], b.toNat - 0xC0, 1, 0x80, 0xBF⟩
  else if b = 0xE0 then .inr ⟨[b], 0, 2, 0xA0, 0xBF⟩
  else if b = 0xED then .inr ⟨[b], 13, 2, 0x80, 0x9F⟩
  else if 0xE1 ≤ b && b ≤ 0xEF then .inr ⟨[b], b.toNat - 0xE0, 2, 0x80, 0xBF⟩
  else if b = 0xF0 then .inr ⟨[b], 0, 3, 0x90, 0xBF⟩
  else if 0xF1 ≤ b && b ≤ 0xF3 then .inr ⟨[b], b.toNat - 0xF0, 3, 0x80, 0xBF⟩
  else if b = 0xF4 then .inr ⟨[b], 4, 3, 0x80, 0x8F⟩
  else .inl (.stray [b])

/-- The pieces of the bytes that follow an unfinished character. -/
private def piecesFrom : Option Partial → List UInt8 → List Piece
  | none, [] => []
  | some p, [] => [.stray p.read.reverse]
  | state, b :: bs =>
    let fresh (_ : Unit) : List Piece :=
      match begin b with
      | .inl piece => piece :: piecesFrom none bs
      | .inr p => piecesFrom (some p) bs
    match state with
    | none => fresh ()
    | some p =>
      if p.low ≤ b && b ≤ p.high then
        let value := p.value * 64 + (b.toNat - 0x80)
        match p.missing with
        | 0 | 1 => .char (Char.ofNat value) :: piecesFrom none bs
        | n + 1 => piecesFrom (some ⟨b :: p.read, value, n, 0x80, 0xBF⟩) bs
      else .stray p.read.reverse :: fresh ()

/-- The bytes read as pieces. -/
def pieces (bs : List UInt8) : List Piece := piecesFrom none bs

/-- The characters, with U+FFFD for each stretch of bytes that is none. -/
def decodeLossy (bs : List UInt8) : List Char := (pieces bs).map Piece.shown

/-- The characters, if the bytes are nothing but characters. -/
def decode? (bs : List UInt8) : Option (List Char) := (pieces bs).mapM Piece.char?

@[simp] theorem size_nil : size [] = 0 := rfl
@[simp] theorem size_cons (c : Char) (cs : List Char) : size (c :: cs) = c.utf8Size + size cs := rfl
@[simp] theorem size_append (a b : List Char) : size (a ++ b) = size a + size b := by
  induction a with
  | nil => simp
  | cons c a ih => rw [List.cons_append, size_cons, size_cons, ih, Nat.add_assoc]

@[simp] theorem encode_nil : encode [] = [] := rfl
@[simp] theorem encode_append (a b : List Char) : encode (a ++ b) = encode a ++ encode b := by
  simp [encode]

/-- The size is the number of bytes written. -/
theorem length_encode (cs : List Char) : (encode cs).length = size cs := by
  induction cs with
  | nil => rfl
  | cons c cs ih =>
    rw [← List.singleton_append, encode_append, List.length_append, ih]
    simp [encode]


/-! ## What was written is read -/

/-- The number of a byte. -/
private theorem toNat_byte {n : Nat} (h : n < 256) : (UInt8.ofNat n).toNat = n := by
  rw [UInt8.toNat_ofNat', Nat.mod_eq_of_lt h]

/-- One byte is enough for the first 128 characters. -/
private theorem begin_one {v : Nat} (h : v < 128) :
    begin (UInt8.ofNat v) = .inl (.char (Char.ofNat v)) := by
  have hbyte : (UInt8.ofNat v).toNat = v := toNat_byte (by omega)
  simp [begin, UInt8.lt_iff_toNat_lt, hbyte, h]

/-- Two bytes begin with 110. -/
private theorem begin_two {k : Nat} (hk : 2 ≤ k) (h : k < 32) : begin (UInt8.ofNat (k + 192)) =
    .inr ⟨[UInt8.ofNat (k + 192)], k, 1, 0x80, 0xBF⟩ := by
  have hbyte : (UInt8.ofNat (k + 192)).toNat = k + 192 := toNat_byte (by omega)
  simp only [begin, UInt8.lt_iff_toNat_lt, UInt8.le_iff_toNat_le, Bool.and_eq_true,
    decide_eq_true_eq, UInt8.toNat_ofNat, hbyte]
  rw [if_neg (by omega), if_pos (by omega), Nat.add_sub_cancel]

/-- Three bytes begin with 1110. After two of these beginnings less can follow: a character that two
bytes are enough for is not written with three, and there are no surrogates. -/
private theorem begin_three {k : Nat} (h : k < 16) : begin (UInt8.ofNat (k + 224)) =
    .inr ⟨[UInt8.ofNat (k + 224)], k, 2, if k = 0 then 0xA0 else 0x80,
      if k = 13 then 0x9F else 0xBF⟩ := by
  by_cases hfirst : k = 0
  · subst hfirst; rfl
  by_cases hsurrogate : k = 13
  · subst hsurrogate; rfl
  have hbyte : (UInt8.ofNat (k + 224)).toNat = k + 224 := toNat_byte (by omega)
  simp only [begin, UInt8.lt_iff_toNat_lt, UInt8.le_iff_toNat_le, ← UInt8.toNat_inj,
    Bool.and_eq_true, decide_eq_true_eq, UInt8.toNat_ofNat, hbyte]
  rw [if_neg (by omega), if_neg (by omega), if_neg (by omega), if_neg (by omega),
    if_pos (by omega), if_neg hfirst, if_neg hsurrogate, Nat.add_sub_cancel]

/-- Four bytes begin with 11110. After two of these beginnings less can follow: a character that
three bytes are enough for is not written with four, and the code points have an end. -/
private theorem begin_four {k : Nat} (h : k < 5) : begin (UInt8.ofNat (k + 240)) =
    .inr ⟨[UInt8.ofNat (k + 240)], k, 3, if k = 0 then 0x90 else 0x80,
      if k = 4 then 0x8F else 0xBF⟩ := by
  match k, h with
  | 0, _ => rfl
  | 1, _ => rfl
  | 2, _ => rfl
  | 3, _ => rfl
  | 4, _ => rfl

/-- A byte with which a character goes on. -/
private def tail (n : Nat) : UInt8 := UInt8.ofNat (n % 64 + 128)

private theorem toNat_tail (n : Nat) : (tail n).toNat = n % 64 + 128 := toNat_byte (by omega)

/-- A character goes on, and more is to come. -/
private theorem piecesFrom_continue {r bs : List UInt8} {low high : UInt8} {v m n : Nat}
    (hlow : low.toNat ≤ n % 64 + 128) (hhigh : n % 64 + 128 ≤ high.toNat) :
    piecesFrom (some ⟨r, v, m + 2, low, high⟩) (tail n :: bs) =
      piecesFrom (some ⟨tail n :: r, v * 64 + n % 64, m + 1, 0x80, 0xBF⟩) bs := by
  simp [piecesFrom, UInt8.le_iff_toNat_le, toNat_tail, hlow, hhigh]

/-- A character ends. -/
private theorem piecesFrom_last {r bs : List UInt8} {low high : UInt8} {v n : Nat}
    (hlow : low.toNat ≤ n % 64 + 128) (hhigh : n % 64 + 128 ≤ high.toNat) :
    piecesFrom (some ⟨r, v, 1, low, high⟩) (tail n :: bs) =
      .char (Char.ofNat (v * 64 + n % 64)) :: piecesFrom none bs := by
  simp [piecesFrom, UInt8.le_iff_toNat_le, toNat_tail, hlow, hhigh]

private theorem piecesFrom_begin {b : UInt8} {p : Partial} {bs : List UInt8}
    (h : begin b = .inr p) : piecesFrom none (b :: bs) = piecesFrom (some p) bs := by
  simp [piecesFrom, h]

/-- The bytes of a character: what it begins with says how many there are. -/
private theorem utf8EncodeChar_eq (c : Char) : String.utf8EncodeChar c =
    if c.toNat ≤ 0x7F then [UInt8.ofNat c.toNat]
    else if c.toNat ≤ 0x7FF then [UInt8.ofNat (c.toNat / 64 % 32 + 192), tail c.toNat]
    else if c.toNat ≤ 0xFFFF then
      [UInt8.ofNat (c.toNat / 4096 % 16 + 224), tail (c.toNat / 64), tail c.toNat]
    else
      [UInt8.ofNat (c.toNat / 262144 % 8 + 240), tail (c.toNat / 4096), tail (c.toNat / 64),
        tail c.toNat] :=
  rfl

/-- A character that was written is read. -/
private theorem piecesFrom_utf8EncodeChar (c : Char) (bs : List UInt8) :
    piecesFrom none (String.utf8EncodeChar c ++ bs) = .char c :: piecesFrom none bs := by
  have hvalid : c.toNat < 0xD800 ∨ 0xDFFF < c.toNat ∧ c.toNat < 0x110000 := c.valid
  have hchar {v : Nat} (hv : v = c.toNat) : Char.ofNat v = c := by rw [hv, Char.ofNat_toNat]
  rw [utf8EncodeChar_eq]
  -- What the beginning leaves out is what `hvalid` and the case exclude: the longer writings of
  -- smaller characters, the surrogates and what lies behind the last code point.
  generalize c.toNat = v at hvalid hchar ⊢
  by_cases hone : v ≤ 0x7F
  · rw [if_pos hone, List.singleton_append, piecesFrom]
    simp only [begin_one (show v < 128 by omega), hchar rfl]
  by_cases htwo : v ≤ 0x7FF
  · rw [if_neg hone, if_pos htwo, List.cons_append, List.singleton_append,
      piecesFrom_begin (begin_two (by omega) (by omega)),
      piecesFrom_last (by simp) (by simp; omega), hchar (by omega)]
  by_cases hthree : v ≤ 0xFFFF
  · rw [if_neg hone, if_neg htwo, if_pos hthree, List.cons_append, List.cons_append,
      List.singleton_append, piecesFrom_begin (begin_three (by omega)),
      piecesFrom_continue (by split <;> simp; omega) (by split <;> simp <;> omega),
      piecesFrom_last (by simp) (by simp; omega), hchar (by omega)]
  · rw [if_neg hone, if_neg htwo, if_neg hthree, List.cons_append, List.cons_append,
      List.cons_append, List.singleton_append, piecesFrom_begin (begin_four (by omega)),
      piecesFrom_continue (by split <;> simp; omega) (by split <;> simp <;> omega),
      piecesFrom_continue (by simp) (by simp; omega),
      piecesFrom_last (by simp) (by simp; omega), hchar (by omega)]

/-- A text is read character by character. -/
theorem pieces_encode (cs : List Char) : pieces (encode cs) = cs.map Piece.char := by
  induction cs with
  | nil => rfl
  | cons c cs ih =>
      rw [pieces, encode, List.flatMap_cons, piecesFrom_utf8EncodeChar, List.map_cons, ← ih]
      rfl

/-- What was written is read. -/
theorem decode?_encode (cs : List Char) : decode? (encode cs) = some cs := by
  rw [decode?, pieces_encode, List.mapM_map]
  induction cs with
  | nil => rfl
  | cons c cs ih =>
      rw [List.mapM_cons, ih]
      rfl

end ImageSync.Text.Utf8
