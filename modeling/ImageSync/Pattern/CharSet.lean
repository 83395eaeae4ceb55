import ImageSync.Text.Blank
import ImageSync.Text.Case
import ImageSync.Text.Script

/-!
# Sets of characters

The sets that a pattern can name: classes like digits and words, and properties of characters.

## Main definitions

* `CharSet`: a set with the size of a machine that knows it.
* `CharSet.property?`: the set of characters with a named property.
* `CharSet.posix?`: the ASCII classes.
-/

namespace ImageSync.Pattern

open Text

/-- A set of characters. -/
structure CharSet where
  contains : Char → Bool
  /-- The size of a machine that knows the set. -/
  weight : Nat

namespace CharSet

/-- The set without any character. -/
def none : CharSet := ⟨fun _ => false, 0⟩

/-- The characters from one to another. -/
def range (low high : Char) : CharSet :=
  ⟨fun c => low ≤ c && c ≤ high, if high.toNat < 128 then 8 else 64⟩

/-- The set of one character. -/
def single (c : Char) : CharSet := range c c

/-- The characters of either set. -/
def union (a b : CharSet) : CharSet := ⟨fun c => a.contains c || b.contains c, a.weight + b.weight⟩

/-- The characters of both sets. -/
def inter (a b : CharSet) : CharSet := ⟨fun c => a.contains c && b.contains c, a.weight + b.weight⟩

/-- The characters of the first set and not of the second. -/
def diff (a b : CharSet) : CharSet := ⟨fun c => a.contains c && !b.contains c, a.weight + b.weight⟩

/-- The characters of one set and not of the other. -/
def symmDiff (a b : CharSet) : CharSet :=
  ⟨fun c => a.contains c != b.contains c, a.weight + b.weight⟩

/-- The characters outside the set. -/
def compl (a : CharSet) : CharSet := ⟨fun c => !a.contains c, a.weight + 600⟩

/-- The ASCII characters of the set. -/
def ascii (a : CharSet) : CharSet := ⟨fun c => c.toNat < 128 && a.contains c, a.weight⟩

/-- The set with all characters that differ from its own in case alone. -/
def foldCase (a : CharSet) : CharSet :=
  ⟨fun c => (caseVariants c).any a.contains, a.weight * 2⟩

/-- The set with all ASCII letters that differ from its own in case alone. -/
def foldAsciiCase (a : CharSet) : CharSet :=
  ⟨fun c => a.contains c || (c.toNat < 128 && (a.contains c.toLower || a.contains c.toUpper)),
    a.weight * 2⟩

/-- Decimal digits. -/
def digit : CharSet := ⟨hasCategory [.digit], 5000⟩

/-- White space. -/
def space : CharSet := ⟨isBlank, 800⟩

/-- Word characters. -/
def word : CharSet := ⟨isWord, 50000⟩

/-- The ASCII class of that name. -/
def posix? (name : String) : Option CharSet :=
  let make (p : Char → Bool) : Option CharSet := some ⟨fun c => c.toNat < 128 && p c, 40⟩
  match name with
  | "alnum" => make Char.isAlphanum
  | "alpha" => make Char.isAlpha
  | "ascii" => make fun _ => true
  | "blank" => make fun c => c == ' ' || c == '\t'
  | "cntrl" => make fun c => c.toNat < 32 || c.toNat == 127
  | "digit" => make Char.isDigit
  | "graph" => make fun c => 33 ≤ c.toNat && c.toNat ≤ 126
  | "lower" => make Char.isLower
  | "print" => make fun c => 32 ≤ c.toNat && c.toNat ≤ 126
  | "punct" => make fun c => 33 ≤ c.toNat && c.toNat ≤ 126 && !c.isAlphanum
  | "space" => make fun c => c == ' ' || (9 ≤ c.toNat && c.toNat ≤ 13)
  | "upper" => make Char.isUpper
  | "word" => make fun c => c.isAlphanum || c == '_'
  | "xdigit" => make fun c => c.isDigit || ('a' ≤ c && c ≤ 'f') || ('A' ≤ c && c ≤ 'F')
  | _ => Option.none

/-! ## Properties -/

/-- The name of a property in the form in which names are compared: lower case, without blanks,
hyphens, underscores and a leading `is`. -/
def plainName (name : List Char) : String :=
  let kept := name.filter fun c => !(isBlank c || c == '-' || c == '_')
  let lowered := kept.map Char.toLower
  match lowered with
  | 'i' :: 's' :: rest => if rest = ['c'] then "isc" else String.ofList rest
  | _ => String.ofList lowered

/-- The general categories of that name. -/
def categories? (name : String) : Option (List Category) :=
  match name with
  | "lu" | "uppercaseletter" => some [.upper]
  | "ll" | "lowercaseletter" => some [.lower]
  | "lt" | "titlecaseletter" => some [.title]
  | "lc" | "casedletter" => some [.upper, .lower, .title]
  | "lm" | "modifierletter" => some [.modifier]
  | "lo" | "otherletter" => some [.otherLetter]
  | "l" | "letter" => some [.upper, .lower, .title, .modifier, .otherLetter]
  | "mn" | "nonspacingmark" => some [.nonspacingMark]
  | "mc" | "spacingmark" => some [.spacingMark]
  | "me" | "enclosingmark" => some [.enclosingMark]
  | "m" | "mark" | "combiningmark" => some [.nonspacingMark, .spacingMark, .enclosingMark]
  | "nd" | "decimalnumber" | "digit" => some [.digit]
  | "nl" | "letternumber" => some [.letterNumber]
  | "no" | "othernumber" => some [.otherNumber]
  | "n" | "number" => some [.digit, .letterNumber, .otherNumber]
  | "pc" | "connectorpunctuation" => some [.connector]
  | "pd" | "dashpunctuation" => some [.dash]
  | "ps" | "openpunctuation" => some [.opening]
  | "pe" | "closepunctuation" => some [.closing]
  | "pi" | "initialpunctuation" => some [.initialQuote]
  | "pf" | "finalpunctuation" => some [.finalQuote]
  | "po" | "otherpunctuation" => some [.otherPunctuation]
  | "p" | "punctuation" | "punct" =>
    some [.connector, .dash, .opening, .closing, .initialQuote, .finalQuote, .otherPunctuation]
  | "sm" | "mathsymbol" => some [.math]
  | "sc" | "currencysymbol" => some [.currency]
  | "sk" | "modifiersymbol" => some [.modifierSymbol]
  | "so" | "othersymbol" => some [.otherSymbol]
  | "s" | "symbol" => some [.math, .currency, .modifierSymbol, .otherSymbol]
  | "zs" | "spaceseparator" => some [.space]
  | "zl" | "lineseparator" => some [.lineSeparator]
  | "zp" | "paragraphseparator" => some [.paragraphSeparator]
  | "z" | "separator" => some [.space, .lineSeparator, .paragraphSeparator]
  | "cc" | "control" | "cntrl" => some [.control]
  | "cf" | "format" => some [.format]
  | "cs" | "surrogate" => some [.surrogate]
  | "co" | "privateuse" => some [.privateUse]
  | "cn" | "unassigned" => some [.unassigned]
  | "c" | "other" => some [.control, .format, .surrogate, .privateUse, .unassigned]
  | _ => Option.none

/-- The characters of the general categories of that name. -/
def category? (name : String) : Option CharSet :=
  match name with
  | "any" => some ⟨fun _ => true, 600⟩
  | "assigned" => some ⟨fun c => !hasCategory [.unassigned] c, 40000⟩
  | "ascii" => some ⟨fun c => c.toNat < 128, 40⟩
  | _ => (categories? name).map fun ks => ⟨hasCategory ks, 3000 * ks.length * ks.length⟩

/-- Capital letters and the letter-like numbers and symbols that count as such. -/
private def isUpperCase (c : Char) : Bool :=
  hasCategory [.upper] c ||
    inRuns [(0x2160, 0x216F), (0x24B6, 0x24CF), (0x1F130, 0x1F149), (0x1F150, 0x1F169),
      (0x1F170, 0x1F189)] c.toNat

/-- Small letters and the characters that count as such. -/
private def isLowerCase (c : Char) : Bool :=
  hasCategory [.lower] c ||
    inRuns [(0xAA, 0xAA), (0xBA, 0xBA), (0x2B0, 0x2B8), (0x2C0, 0x2C1), (0x2E0, 0x2E4),
      (0x345, 0x345), (0x37A, 0x37A), (0x10FC, 0x10FC), (0x1D2C, 0x1D6A), (0x1D78, 0x1D78),
      (0x1D9B, 0x1DBF), (0x2071, 0x2071), (0x207F, 0x207F), (0x2090, 0x209C), (0x2170, 0x217F),
      (0x24D0, 0x24E9), (0x2C7C, 0x2C7D), (0xA69C, 0xA69D), (0xA770, 0xA770), (0xA7F2, 0xA7F4),
      (0xA7F8, 0xA7F9), (0xAB5C, 0xAB5F), (0xAB69, 0xAB69), (0x10780, 0x10780),
      (0x10783, 0x10785), (0x10787, 0x107B0), (0x107B2, 0x107BA), (0x1E030, 0x1E06D)] c.toNat

/-- The characters with a property that needs no value. -/
def binary? (name : String) : Option CharSet :=
  match name with
  | "alphabetic" | "alpha" =>
    some ⟨fun c => isLetter c || hasCategory [.letterNumber] c || isLetterSymbol c, 45000⟩
  | "uppercase" | "upper" => some ⟨isUpperCase, 12000⟩
  | "lowercase" | "lower" => some ⟨isLowerCase, 12000⟩
  | "whitespace" | "wspace" | "space" => some space
  | "asciihexdigit" | "ahex" => posix? "xdigit"
  | "hexdigit" | "hex" =>
    some ⟨fun c =>
      ((posix? "xdigit").getD none).contains c ||
        inRuns [(0xFF10, 0xFF19), (0xFF21, 0xFF26), (0xFF41, 0xFF46)] c.toNat, 400⟩
  | _ => Option.none

/-- The characters of a script. -/
def ofScript? (name : String) : Option CharSet := (script? name).map fun p => ⟨p, 4000⟩

/-- The characters with a property that is given by its value or its own name. -/
def property? (name : List Char) : Option CharSet :=
  let name := plainName name
  let named := if ["cf", "sc", "lc"].contains name then Option.none else binary? name
  match named with
  | some s => some s
  | Option.none => (category? name).or (ofScript? name)

/-- The characters for which a property has a value. -/
def propertyValue? (name value : List Char) : Option CharSet :=
  match plainName name with
  | "gc" | "generalcategory" => category? (plainName value)
  | "sc" | "script" | "scx" | "scriptextensions" => ofScript? (plainName value)
  | _ => Option.none

end CharSet

end ImageSync.Pattern
