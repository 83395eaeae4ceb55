import ImageSync.Json.Parser
import ImageSync.Text.Utf8

/-!
# Escapes in addresses

A character that would be misread in a part of an address is written as its bytes, each as a percent
sign and two hexadecimal digits. Which characters these are depends on the part. In form fields a
space is written as a plus sign.

## Main definitions

* `isEscapedIn…`: what is escaped in the parts of an address.
* `escape s cs`: a text with the characters in `s` escaped.
* `unescape cs`: the bytes that an escaped text stands for.
* `formField cs`: a text as a form field.
-/

namespace ImageSync.Uri

open Text

/-- Control characters and all beyond ASCII: escaped everywhere. -/
def isEscaped (c : Char) : Bool := c < ' ' || '\x7e' < c

/-- What is escaped in the last part, behind `#`. -/
def isEscapedInFragment (c : Char) : Bool :=
  isEscaped c || c == ' ' || c == '"' || c == '<' || c == '>' || c == '`'

/-- What is escaped in a path. -/
def isEscapedInPath (c : Char) : Bool :=
  isEscapedInFragment c || c == '#' || c == '?' || c == '\x7b' || c == '\x7d'

/-- What is escaped in user names and passwords. -/
def isEscapedInUser (c : Char) : Bool :=
  isEscapedInPath c || c == '/' || c == ':' || c == ';' || c == '=' || c == '@' || c == '[' ||
    c == '\\' || c == ']' || c == '^' || c == '|'

/-- What is escaped in a query. A single quote is only if the scheme has a known form. -/
def isEscapedInQuery (isSpecial : Bool) (c : Char) : Bool :=
  isEscaped c || c == ' ' || c == '"' || c == '#' || c == '<' || c == '>' ||
    (isSpecial && c == '\'')

/-- A hexadecimal digit in upper case. -/
def upperHexDigit (n : Nat) : Char := (Nat.digitChar n).toUpper

/-- The escape of one byte. -/
def escapeByte (b : UInt8) : List Char :=
  ['%', upperHexDigit (b.toNat / 16), upperHexDigit (b.toNat % 16)]

/-- The escape of one character. -/
def escapeChar (c : Char) : List Char := (String.utf8EncodeChar c).flatMap escapeByte

/-- A text with the characters in a class escaped. -/
def escape (isIn : Char → Bool) (cs : List Char) : List Char :=
  cs.flatMap fun c => if isIn c then escapeChar c else [c]

/-- The bytes that an escaped text stands for. A percent sign that begins no escape stays. -/
def unescape : List Char → List UInt8
  | [] => []
  | '%' :: a :: b :: rest =>
    match Json.hexDigit? a, Json.hexDigit? b with
    | some m, some n => UInt8.ofNat (16 * m + n) :: unescape rest
    | _, _ => 37 :: unescape (a :: b :: rest)
  | c :: rest => String.utf8EncodeChar c ++ unescape rest

/-- What stays as it is in a form field. -/
def isFormLetter (c : Char) : Bool :=
  c.isAlphanum || c == '*' || c == '-' || c == '.' || c == '_'

/-- A text as a form field. -/
def formField (cs : List Char) : List Char :=
  cs.flatMap fun c =>
    if c = ' ' then ['+'] else if isFormLetter c then [c] else escapeChar c

@[simp] theorem escape_nil (isIn : Char → Bool) : escape isIn [] = [] := rfl

@[simp] theorem escape_append (isIn : Char → Bool) (a b : List Char) :
    escape isIn (a ++ b) = escape isIn a ++ escape isIn b := by
  simp [escape]

end ImageSync.Uri
