/-!
# Characters of YAML texts

The characters that a YAML text may hold, its line breaks and the positions in it.

## Main definitions

* `prepare? cs`: the text without byte order mark and with line breaks in one spelling.
* `isBreak`, `isBlank`, `endsWord`: classes of characters.
* `Mark`: a position.
-/

namespace ImageSync.Yaml

/-- Whether a character may stand in a text: no control characters but tab and line breaks. -/
def isAllowed (c : Char) : Bool :=
  let n := c.toNat
  n == 0x9 || n == 0xA || n == 0xD || (0x20 ≤ n && n ≤ 0x7E) || n == 0x85 ||
    (0xA0 ≤ n && n ≤ 0xD7FF) || (0xE000 ≤ n && n ≤ 0xFFFD) || 0x10000 ≤ n

/-- The byte order mark. -/
def byteOrderMark : Char := '\uFEFF'

/-- Every line break written as a line feed, except the line and paragraph separators, which stay. -/
def unifyBreaks : List Char → List Char
  | '\r' :: '\n' :: cs => '\n' :: unifyBreaks cs
  | c :: cs => (if c = '\r' ∨ c.toNat = 0x85 then '\n' else c) :: unifyBreaks cs
  | [] => []

/-- The text to read, if all its characters are allowed. -/
def prepare? (cs : List Char) : Option (List Char) :=
  if cs.all isAllowed then
    match cs with
    | c :: rest => some (unifyBreaks (if c = byteOrderMark then rest else c :: rest))
    | [] => some []
  else none

/-- Line breaks. -/
def isBreak (c : Char) : Bool := c == '\n' || c == '\u2028' || c == '\u2029'

/-- Spaces and tabs. -/
def isBlank (c : Char) : Bool := c == ' ' || c == '\t'

/-- Whether a word ends here: at a blank, a line break or the end of the text. -/
def endsWord : List Char → Bool
  | [] => true
  | c :: _ => isBlank c || isBreak c

/-- The characters of names of anchors and directives. -/
def isNameChar (c : Char) : Bool := c.isAlphanum || c == '_' || c == '-'

/-- A position: the number of characters before it, of lines, and of characters in its line. -/
structure Mark where
  index : Nat := 0
  line : Nat := 0
  column : Nat := 0
deriving Repr

/-- The position behind one more character. -/
def Mark.after (m : Mark) (c : Char) : Mark :=
  if isBreak c then ⟨m.index + 1, m.line + 1, 0⟩ else ⟨m.index + 1, m.line, m.column + 1⟩

/-- The position behind more characters. -/
def Mark.afterAll (m : Mark) (cs : List Char) : Mark := cs.foldl after m

/-- Whether a document begins or ends here: three equal signs that form a word of their own. -/
def isDocumentMark (sign : Char) : List Char → Bool
  | a :: b :: c :: rest => a == sign && b == sign && c == sign && endsWord rest
  | _ => false

end ImageSync.Yaml
