import ImageSync.Text.Category
import ImageSync.Text.Split

/-!
# The grammar of image references

Recognisers for the parts of an image reference: host, path component, tag, digest algorithm and
digest text. Hosts, components and digests are ASCII by their grammar; a tag may hold any word
character.

## Main definitions

* `isHost`: labels joined by dots, with an optional number after a colon.
* `isComponent`: runs of lower case letters and digits, joined by `.`, `_`, `__` or hyphens.
* `isTag`: a word character and at most 127 word characters, dots or hyphens.
* `isAlgorithm`, `isDigestText`, `isLowerHex`: the parts of a digest.
-/

namespace ImageSync.Reference

open Text

/-- Lower case ASCII letters and digits. -/
def isLowerAlnum (c : Char) : Bool := c.isLower || c.isDigit

/-- Lower case hexadecimal digits. -/
def isLowerHex (c : Char) : Bool := c.isDigit || ('a' ≤ c && c ≤ 'f')

/-! ## Path components -/

/-- Where a reader stands inside a path component. -/
inductive ComponentState where
  /-- Before the first character. -/
  | start
  /-- Inside a run of letters and digits. -/
  | run
  /-- Behind a dot. -/
  | dot
  /-- Behind one underscore. -/
  | underscore
  /-- Behind two underscores. -/
  | twoUnderscores
  /-- Behind hyphens. -/
  | hyphens
deriving DecidableEq, Repr

namespace ComponentState

/-- Where the reader stands after one more character; `none` if it may not stand there. -/
def next (s : ComponentState) (c : Char) : Option ComponentState :=
  if isLowerAlnum c then some run
  else
    match s with
    | run =>
      if c = '.' then some dot
      else if c = '_' then some underscore
      else if c = '-' then some hyphens
      else none
    | underscore => if c = '_' then some twoUnderscores else none
    | hyphens => if c = '-' then some hyphens else none
    | _ => none

/-- Whether the characters lead from the state to the end of a component. -/
def accepts : ComponentState → List Char → Bool
  | s, [] => s == run
  | s, c :: cs =>
    match s.next c with
    | some s => s.accepts cs
    | none => false

end ComponentState

/-- Runs of lower case letters and digits, joined by a dot, one or two underscores, or hyphens. -/
def isComponent (cs : List Char) : Bool := ComponentState.start.accepts cs

/-- One or more path components with a slash between neighbours. -/
def isPath (cs : List Char) : Bool := (splitOn '/' cs).all isComponent

/-! ## Hosts -/

/-- A host label: letters, digits and inner hyphens. -/
def isLabel (cs : List Char) : Bool :=
  cs.all (fun c => c.isAlphanum || c == '-') &&
    cs.head?.any Char.isAlphanum && cs.getLast?.any Char.isAlphanum

/-- Labels joined by dots. -/
def isHostName (cs : List Char) : Bool := (splitOn '.' cs).all isLabel

/-- A host name, with an optional number after a colon. -/
def isHost (cs : List Char) : Bool :=
  match splitFirst ':' cs with
  | none => isHostName cs
  | some (name, number) => isHostName name && !number.isEmpty && number.all Char.isDigit

/-- Whether a first component can only be a host: it has a dot, a colon or a capital letter, or is
`localhost`. -/
def looksLikeHost (cs : List Char) : Bool :=
  cs.any (fun c => c == '.' || c == ':' || c.isUpper) || cs == "localhost".toList

/-! ## Tags and digests -/

/-- A word character followed by at most 127 word characters, dots or hyphens. -/
def isTag : List Char → Bool
  | [] => false
  | c :: cs =>
    isWord c && decide (cs.length ≤ 127) && cs.all fun d => isWord d || d == '.' || d == '-'

/-- Runs of lower case letters and digits with one of `.`, `+`, `_`, `-` between neighbours. -/
def isAlgorithm (cs : List Char) : Bool :=
  let separated := cs.map fun c => if c = '+' ∨ c = '_' ∨ c = '-' then '.' else c
  (splitOn '.' separated).all fun run => !run.isEmpty && run.all isLowerAlnum

/-- Letters, digits, `=`, `_` and `-`, at least one. -/
def isDigestText (cs : List Char) : Bool :=
  !cs.isEmpty && cs.all fun c => c.isAlphanum || c == '=' || c == '_' || c == '-'

/-- Exactly 64 lower case hexadecimal digits, which could be taken for a content identifier. -/
def isHex64 (cs : List Char) : Bool := decide (cs.length = 64) && cs.all isLowerHex

end ImageSync.Reference
