import ImageSync.Json.Parser
import ImageSync.Text.Utf8

/-!
# Outlines

Who wants one member of a JSON text reads this one alone. The others are passed over, and a string
that is passed over may hold bytes that are no text and escapes that are no character. So the outline
of a text is found byte by byte, each byte standing as the character with its number, and its members
are left as they are written.

## Main definitions

* `skipValue? fuel cs`: the text behind the value at the beginning.
* `Outline`, `outline? bytes`: the members of an array or of an object, as they are written.
* `Outline.member? names name o`: the value of one member.
-/

namespace ImageSync.Json

open Text

/-- The text behind the closing quote. Escapes have to be complete, but need not be characters. -/
def skipString? : List Char → Option (List Char)
  | [] => none
  | '"' :: rest => some rest
  | '\\' :: 'u' :: a :: b :: c :: d :: rest =>
    if [a, b, c, d].all fun digit => (hexDigit? digit).isSome then skipString? rest else none
  | '\\' :: c :: rest => if "\"\\/bfnrt".toList.contains c then skipString? rest else none
  | c :: rest => if c.toNat < 0x20 then none else skipString? rest

mutual

/-- The text behind the value at its beginning, where no blanks lead. -/
def skipValue? : Nat → List Char → Option (List Char)
  | 0, _ => none
  | _, [] => none
  | fuel + 1, c :: rest =>
    if c = '"' then skipString? rest
    else if c = '[' then
      match skipBlanks rest with
      | ']' :: rest => some rest
      | rest => skipItems? fuel rest
    else if c = '\x7b' then
      match skipBlanks rest with
      | '\x7d' :: rest => some rest
      | rest => skipMembers? fuel rest
    else if c = 'n' then behind? ['u', 'l', 'l'] rest
    else if c = 't' then behind? ['r', 'u', 'e'] rest
    else if c = 'f' then behind? ['a', 'l', 's', 'e'] rest
    else (numberText? (c :: rest)).map fun (_, rest) => rest

/-- The text behind the closing bracket of an array. -/
def skipItems? : Nat → List Char → Option (List Char)
  | 0, _ => none
  | fuel + 1, cs =>
    match skipValue? fuel cs with
    | none => none
    | some rest =>
      match skipBlanks rest with
      | ']' :: rest => some rest
      | ',' :: rest => skipItems? fuel (skipBlanks rest)
      | _ => none

/-- The text behind the closing brace of an object. -/
def skipMembers? : Nat → List Char → Option (List Char)
  | 0, _ => none
  | fuel + 1, cs =>
    match cs with
    | '"' :: rest =>
      match (skipString? rest).map skipBlanks with
      | some (':' :: rest) =>
        match (skipValue? fuel (skipBlanks rest)).map skipBlanks with
        | some ('\x7d' :: rest) => some rest
        | some (',' :: rest) => skipMembers? fuel (skipBlanks rest)
        | _ => none
      | _ => none
    | _ => none

end

/-- The value at the beginning of a text as it is written, and what follows it. -/
def writtenValue? (cs : List Char) : Option (List Char × List Char) :=
  (skipValue? (cs.length + 1) cs).map fun rest => (cs.take (cs.length - rest.length), rest)

/-- The value of what is written, if its bytes are text. -/
def valueOf? (written : List Char) : Option Json :=
  (Utf8.decode? (written.map Utf8.byteOfChar)).bind fun cs => parse? (String.ofList cs)

/-- The items up to the closing bracket. -/
def writtenItems? : Nat → List Char → Option (List (List Char) × List Char)
  | 0, _ => none
  | fuel + 1, cs => do
    let (item, rest) ← writtenValue? cs
    match skipBlanks rest with
    | ']' :: rest => some ([item], rest)
    | ',' :: rest =>
      (writtenItems? fuel (skipBlanks rest)).map fun (items, rest) => (item :: items, rest)
    | _ => none

/-- The fields up to the closing brace. Their names are read. -/
def writtenFields? : Nat → List Char → Option (List (String × List Char) × List Char)
  | 0, _ => none
  | fuel + 1, cs => do
    let (name, rest) ← writtenValue? cs
    let name ← (valueOf? name).bind text?
    match skipBlanks rest with
    | ':' :: rest =>
      let (value, rest) ← writtenValue? (skipBlanks rest)
      match skipBlanks rest with
      | '\x7d' :: rest => some ([(name, value)], rest)
      | ',' :: rest =>
        (writtenFields? fuel (skipBlanks rest)).map fun (fields, rest) =>
          ((name, value) :: fields, rest)
      | _ => none
    | _ => none

/-- The members of an array or of an object, as they are written. -/
inductive Outline where
  | array (items : List (List Char))
  | object (fields : List (String × List Char))
deriving DecidableEq, Repr

/-- The array or object at the beginning of a text, and what follows it. -/
def splitOutline? : List Char → Option (Outline × List Char)
  | '[' :: rest =>
    match skipBlanks rest with
    | ']' :: rest => some (.array [], rest)
    | rest => (writtenItems? (rest.length + 1) rest).map fun (items, rest) => (.array items, rest)
  | '\x7b' :: rest =>
    match skipBlanks rest with
    | '\x7d' :: rest => some (.object [], rest)
    | rest => (writtenFields? (rest.length + 1) rest).map fun (fields, rest) => (.object fields, rest)
  | _ => none

/-- The outline of the array or object that a text consists of. -/
def outline? (bytes : List UInt8) : Option Outline :=
  match splitOutline? (skipBlanks (bytes.map Utf8.charOfByte)) with
  | some (o, rest) => if (skipBlanks rest).isEmpty then some o else none
  | none => none

/-- The member with a name, where a name may stand once. An array stands for the members in the order
of `names`. -/
def Outline.member? (names : List String) (name : String) : Outline → Option Json
  | object fields =>
    match fields.filter fun f => f.1 = name with
    | [] => some .null
    | [f] => valueOf? f.2
    | _ => none
  | array items =>
    if items.length ≤ names.length then
      match items[names.idxOf name]? with
      | none => some .null
      | some item => valueOf? item
    else none

end ImageSync.Json
