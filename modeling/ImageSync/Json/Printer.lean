import ImageSync.Json.Basic
import ImageSync.Text.Quoted
import ImageSync.Text.Split

/-!
# Writing JSON

The shortest spelling of a value: no blanks, and an escape only for a character that may not stand
in a string.
-/

namespace ImageSync.Json

open Text

/-- A code point below 256 with two hexadecimal digits. -/
def twoHexDigits (n : Nat) : List Char :=
  if n < 16 then '0' :: hexText n else hexText n

/-- One character inside a string. -/
def printChar (c : Char) : List Char :=
  if c = '"' then ['\\', '"']
  else if c = '\\' then ['\\', '\\']
  else if c = '\x08' then ['\\', 'b']
  else if c = '\x0C' then ['\\', 'f']
  else if c = '\n' then ['\\', 'n']
  else if c = '\r' then ['\\', 'r']
  else if c = '\t' then ['\\', 't']
  else if c.toNat < 0x20 then ['\\', 'u', '0', '0'] ++ twoHexDigits c.toNat
  else [c]

/-- A string with its quotes. -/
def printString (s : String) : List Char := ['"'] ++ s.toList.flatMap printChar ++ ['"']

mutual

/-- The characters of a value. -/
def print : Json → List Char
  | null => "null".toList
  | bool true => "true".toList
  | bool false => "false".toList
  | number t => t.toList
  | string s => printString s
  | array xs => ['['] ++ joinWith ',' (printItems xs) ++ [']']
  | object fs => ['\x7b'] ++ joinWith ',' (printFields fs) ++ ['\x7d']

/-- The characters of each item. -/
def printItems : List Json → List (List Char)
  | [] => []
  | x :: xs => print x :: printItems xs

/-- The characters of each field. -/
def printFields : List (String × Json) → List (List Char)
  | [] => []
  | (k, v) :: fs => (printString k ++ [':'] ++ print v) :: printFields fs

end

/-- The text of a value. -/
def text (v : Json) : String := String.ofList v.print

end ImageSync.Json
