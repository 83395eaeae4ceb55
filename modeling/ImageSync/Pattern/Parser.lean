import ImageSync.Pattern.Basic
import ImageSync.Pattern.CharSet
import ImageSync.Text.Split

/-!
# Reading patterns

The notation of patterns: literal characters, sets in brackets, groups with settings, repetitions,
alternatives and escapes. Settings hold from where they stand to the end of their group.

## Main definitions

* `Pattern.Settings`: what the letters in `(?ims)` say.
* `Pattern.parse?`: the pattern of a text, or `none` if it is none or would need too large a machine.
-/

namespace ImageSync.Pattern

open Text

/-- The settings under which a part of a pattern is read. -/
structure Settings where
  ignoreCase : Bool := false
  /-- Assertions about the ends of the text hold at the ends of lines too. -/
  multiLine : Bool := false
  /-- A dot stands for line breaks too. -/
  dotAll : Bool := false
  /-- Classes and case go beyond ASCII. -/
  unicode : Bool := true
  /-- A carriage return is part of a line break. -/
  crlf : Bool := false
  /-- Blanks and comments do not count. -/
  spaced : Bool := false

/-- What is left to read. -/
structure Reader where
  rest : List Char
  settings : Settings := {}
  /-- The names of groups so far. -/
  names : List (List Char) := []

/-- The text behind blanks and comments. -/
def skipSpaced : (comment : Bool) → List Char → List Char
  | _, [] => []
  | true, c :: cs => skipSpaced (c != '\n') cs
  | false, c :: cs =>
    if isBlank c then skipSpaced false cs
    else if c == '#' then skipSpaced true cs
    else c :: cs

namespace Settings

/-- The text behind blanks and comments, where these do not count. -/
def skip (s : Settings) (cs : List Char) : List Char := if s.spaced then skipSpaced false cs else cs

/-- The characters of words. -/
def isWord (s : Settings) (c : Char) : Bool :=
  if s.unicode then Text.isWord c else c.isAlphanum || c == '_'

/-- A set with everything that differs in case alone, where case does not count. -/
def fold (s : Settings) (set : CharSet) : CharSet :=
  if !s.ignoreCase then set else if s.unicode then set.foldCase else set.foldAsciiCase

/-- The complement of a set. Where only ASCII is known, the complement of a set is not one. -/
def compl? (s : Settings) (set : CharSet) : Option CharSet :=
  if s.unicode then some set.compl else none

/-- The pattern of a set. -/
def ofSet (_ : Settings) (set : CharSet) : Pattern := .one set.contains (stateWeight + set.weight)

/-- The pattern of a literal character. -/
def literal (s : Settings) (c : Char) : Pattern :=
  .one (s.fold (.single c)).contains (stateWeight * c.utf8Size)

/-- The pattern of a dot. -/
def dot? (s : Settings) : Option Pattern :=
  if !s.unicode then none
  else if s.dotAll then some (.one (fun _ => true) 600)
  else if s.crlf then some (.one (fun c => c != '\n' && c != '\r') 600)
  else some (.one (fun c => c != '\n') 600)

/-- The assertion of a circumflex. -/
def lineStart (s : Settings) : Assertion := if s.multiLine then .lineStart s.crlf else .textStart

/-- The assertion of a dollar sign. -/
def lineEnd (s : Settings) : Assertion := if s.multiLine then .lineEnd s.crlf else .textEnd

end Settings

/-! ## Escapes -/

/-- What stands behind a backslash. -/
inductive Escape where
  /-- A character; `raw` if it was written as one byte. -/
  | char (c : Char) (raw : Bool)
  | set (s : CharSet)
  | assertion (a : Assertion)

/-- The characters with a meaning of their own. -/
def isMeta (c : Char) : Bool := "\\.+*?()|[]\x7b\x7d^$#&-~".toList.contains c

/-- The characters that may stand behind a backslash for themselves. -/
def isEscapable (c : Char) : Bool :=
  isMeta c || (c.toNat < 128 && !c.isAlphanum && c != '<' && c != '>')

/-- The value of a hexadecimal digit in either case. -/
def hexDigitValue? (c : Char) : Option Nat :=
  if c.isDigit then some (c.toNat - 48)
  else if 'a' ≤ c ∧ c ≤ 'f' then some (c.toNat - 87)
  else if 'A' ≤ c ∧ c ≤ 'F' then some (c.toNat - 55)
  else none

/-- The character of a code. -/
def charOf? (digits : List Nat) : Option Char :=
  let n := digits.foldl (fun n d => if n < 0x110000 then n * 16 + d else n) 0
  if n.isValidChar then some (Char.ofNat n) else none

/-- A fixed number of hexadecimal digits. -/
def fixedHex? (s : Settings) : Nat → List Char → Option (List Nat × List Char)
  | 0, cs => some ([], cs)
  | n + 1, cs =>
    match s.skip cs with
    | [] => none
    | c :: rest => do
      let d ← hexDigitValue? c
      let (ds, rest) ← fixedHex? s n rest
      return (d :: ds, rest)

/-- The characters up to a closing brace, blanks left out where they do not count. -/
def upToBrace? (s : Settings) : Nat → List Char → Option (List Char × List Char)
  | 0, _ => none
  | fuel + 1, cs =>
    match s.skip cs with
    | [] => none
    | c :: rest =>
      if c = '\x7d' then some ([], rest)
      else do
        let (text, rest) ← upToBrace? s fuel rest
        return (c :: text, rest)

/-- A character by its code, with so many digits or in braces. -/
def hexEscape? (s : Settings) (width : Nat) (cs : List Char) : Option (Escape × List Char) :=
  match s.skip cs with
  | '\x7b' :: rest => do
    let (text, rest) ← upToBrace? s (rest.length + 1) rest
    let digits ← text.mapM hexDigitValue?
    if digits.isEmpty then none
    return (.char (← charOf? digits) false, rest)
  | cs => do
    let (digits, rest) ← fixedHex? s width cs
    return (.char (← charOf? digits) (width == 2), rest)

/-- The set of a property: one letter, or a name in braces with an optional value. -/
def propertyEscape? (s : Settings) (negated : Bool) (cs : List Char) :
    Option (Escape × List Char) := do
  let finish (negated : Bool) (set : Option CharSet) (rest : List Char) := do
    if !s.unicode then none
    let set := s.fold (← set)
    return (Escape.set (if negated then set.compl else set), rest)
  match s.skip cs with
  | [] => none
  | '\x7b' :: rest => do
    let (text, rest) ← upToBrace? s (rest.length + 1) rest
    match splitAround "!=".toList text, splitFirst ':' text, splitFirst '=' text with
    | some (name, value), _, _ => finish (!negated) (CharSet.propertyValue? name value) rest
    | none, some (name, value), _ => finish negated (CharSet.propertyValue? name value) rest
    | none, none, some (name, value) => finish negated (CharSet.propertyValue? name value) rest
    | none, none, none => finish negated (CharSet.property? text) rest
  | c :: rest => if c = '\\' then none else finish negated (CharSet.property? [c]) rest

/-- The class of a letter: digits, white space or word characters. -/
def classEscape? (s : Settings) (c : Char) : Option CharSet :=
  let base : Option CharSet :=
    match c.toLower with
    | 'd' => if s.unicode then some .digit else CharSet.posix? "digit"
    | 's' => if s.unicode then some .space else CharSet.posix? "space"
    | 'w' => if s.unicode then some .word else CharSet.posix? "word"
    | _ => none
  match base with
  | none => none
  | some set => if c.isUpper then s.compl? set else some set

/-- The letters of the names of word assertions. -/
def isAssertionLetter (c : Char) : Bool := c.isAlpha || c == '-'

/-- A word assertion, with or without a name in braces. What stands in braces and is no name is left
for a repetition. -/
def wordEscape? (s : Settings) (cs : List Char) : Option (Escape × List Char) :=
  match cs with
  | '\x7b' :: rest =>
    let inner := s.skip rest
    match inner with
    | [] => none
    | c :: _ =>
      if !isAssertionLetter c then some (.assertion .wordBoundary, cs)
      else do
        let (name, rest) ← upToBrace? s (inner.length + 1) inner
        if !name.all isAssertionLetter then none
        match String.ofList name with
        | "start" => return (.assertion .wordStart, rest)
        | "end" => return (.assertion .wordEnd, rest)
        | "start-half" => return (.assertion .notBehindWord, rest)
        | "end-half" => return (.assertion .notBeforeWord, rest)
        | _ => none
  | _ => some (.assertion .wordBoundary, cs)

/-- What stands behind a backslash, and the text behind it. -/
def escape? (s : Settings) : List Char → Option (Escape × List Char)
  | [] => none
  | c :: rest =>
    if c.isDigit then none
    else
      match c with
      | 'x' => hexEscape? s 2 rest
      | 'u' => hexEscape? s 4 rest
      | 'U' => hexEscape? s 8 rest
      | 'p' => propertyEscape? s false rest
      | 'P' => propertyEscape? s true rest
      | 'a' => some (.char '\x07' false, rest)
      | 'f' => some (.char '\x0C' false, rest)
      | 't' => some (.char '\t' false, rest)
      | 'n' => some (.char '\n' false, rest)
      | 'r' => some (.char '\r' false, rest)
      | 'v' => some (.char '\x0B' false, rest)
      | 'A' => some (.assertion .textStart, rest)
      | 'z' => some (.assertion .textEnd, rest)
      | 'b' => wordEscape? s rest
      | 'B' => some (.assertion .noWordBoundary, rest)
      | '<' => some (.assertion .wordStart, rest)
      | '>' => some (.assertion .wordEnd, rest)
      | _ =>
        if "dswDSW".toList.contains c then (classEscape? s c).map fun set => (.set set, rest)
        else if isEscapable c then some (.char c false, rest)
        else none

/-- A character may be written as a byte beyond ASCII only where there is more than ASCII. -/
def Settings.allows (s : Settings) (c : Char) (raw : Bool) : Bool :=
  s.unicode || !raw || c.toNat < 128

/-! ## Sets in brackets -/

/-- A class in brackets and colons inside a set, if the text begins with one. -/
def posixClass? : List Char → Option (Bool × CharSet × List Char)
  | '[' :: ':' :: rest =>
    let negated := rest.head? == some '^'
    let rest := if negated then rest.drop 1 else rest
    match rest.span fun c => c != ':' with
    | (name, ':' :: ']' :: rest) =>
      (CharSet.posix? (String.ofList name)).map fun set => (negated, set, rest)
    | _ => none
  | _ => none

/-- One member of a set: a character or a class. -/
def setMember? (s : Settings) : List Char → Option ((Char ⊕ CharSet) × List Char)
  | [] => none
  | '\\' :: rest =>
    match escape? s rest with
    | some (.char c raw, rest) =>
      if s.allows c raw && (s.unicode || c.toNat < 128) then some (.inl c, rest) else none
    | some (.set set, rest) => some (.inr set, rest)
    | _ => none
  | c :: rest => if s.unicode || c.toNat < 128 then some (.inl c, rest) else none

/-- The set of a member. -/
def setOf : Char ⊕ CharSet → CharSet
  | .inl c => .single c
  | .inr set => set

/-- A member of a set, or a range between two characters. -/
def setRange? (s : Settings) (cs : List Char) : Option (CharSet × List Char) := do
  let (first, rest) ← setMember? s cs
  match s.skip rest with
  | [] => none
  | '-' :: more =>
    let next := (s.skip more).head?
    if next == some ']' || next == some '-' then return (setOf first, '-' :: more)
    else do
      let (last, rest) ← setMember? s (s.skip more)
      match first, last with
      | .inl a, .inl b => if a ≤ b then return (.range a b, rest) else none
      | _, _ => none
  | rest => return (setOf first, rest)

/-- The operations between sets. -/
inductive SetOp where
  | inter
  | diff
  | symmDiff

/-- The result of an operation between the set before it, if there is one, and a set. -/
def combine (s : Settings) : Option (SetOp × CharSet) → CharSet → CharSet
  | none, set => set
  | some (.inter, before), set => (s.fold before).inter (s.fold set)
  | some (.diff, before), set => (s.fold before).diff (s.fold set)
  | some (.symmDiff, before), set => (s.fold before).symmDiff (s.fold set)

/-- The signs at the beginning of a set: hyphens, and a closing bracket in first place, count as
characters. -/
def setStart (s : Settings) : Nat → (set : CharSet) → (first : Bool) → List Char →
    Option (CharSet × List Char)
  | 0, _, _, _ => none
  | fuel + 1, set, first, cs =>
    match s.skip cs with
    | [] => none
    | '-' :: rest => setStart s fuel (set.union (.single '-')) false rest
    | c :: rest =>
      if c = ']' ∧ first then some (set.union (.single ']'), rest) else some (set, c :: rest)

mutual

/-- The set behind an opening bracket. -/
def set? (s : Settings) : Nat → List Char → Option (CharSet × List Char)
  | 0, _ => none
  | fuel + 1, cs =>
    let cs := s.skip cs
    let negated := cs.head? == some '^'
    match setStart s (cs.length + 1) .none true (if negated then cs.drop 1 else cs) with
    | none => none
    | some (start, rest) =>
      match setRest? s fuel none start rest with
      | none => none
      | some (set, rest) =>
        let set := s.fold set
        if negated then (s.compl? set).map fun set => (set, rest) else some (set, rest)

/-- The members up to the closing bracket, added to those before. -/
def setRest? (s : Settings) : Nat → (before : Option (SetOp × CharSet)) → (set : CharSet) →
    List Char → Option (CharSet × List Char)
  | 0, _, _, _ => none
  | fuel + 1, before, set, cs =>
    match s.skip cs with
    | [] => none
    | ']' :: rest => some (combine s before set, rest)
    | '&' :: '&' :: rest => setRest? s fuel (some (.inter, combine s before set)) .none rest
    | '-' :: '-' :: rest => setRest? s fuel (some (.diff, combine s before set)) .none rest
    | '~' :: '~' :: rest => setRest? s fuel (some (.symmDiff, combine s before set)) .none rest
    | '[' :: rest =>
      match posixClass? ('[' :: rest) with
      | some (negated, inner, rest) =>
        let inner := s.fold inner
        if negated then
          match s.compl? inner with
          | none => none
          | some inner => setRest? s fuel before (set.union inner) rest
        else setRest? s fuel before (set.union inner) rest
      | none =>
        match set? s fuel rest with
        | none => none
        | some (inner, rest) => setRest? s fuel before (set.union inner) rest
    | cs =>
      match setRange? s cs with
      | none => none
      | some (inner, rest) => setRest? s fuel before (set.union inner) rest

end

/-! ## Groups and repetitions -/

/-- A part of a pattern, with the depth of its nesting. Settings are a part without pattern. -/
structure Part where
  pattern : Option Pattern
  depth : Nat := 0

/-- The deepest nesting that is accepted. -/
def maxDepth : Nat := 250

/-- The parts of a sequence put together. -/
def joinParts (parts : List Part) : Part :=
  let patterns := parts.filterMap Part.pattern
  let depth := (parts.map Part.depth).foldl max 0
  ⟨some (patterns.foldr .seq .empty), if parts.length ≤ 1 then depth else depth + 1⟩

/-- A part repeated. What fits the empty stretch alone needs no more than one repetition. -/
def repeatPart? (low : Nat) (high : Option Nat) (part : Part) : Option Part :=
  match part.pattern with
  | none => none
  | some p =>
    let repeated :=
      if p.isEmptyOnly then .rep (min low 1) (some (min (high.getD 1) 1)) p else .rep low high p
    some ⟨some repeated, part.depth + 1⟩

/-- A number with blanks around it. -/
def decimal? (s : Settings) (cs : List Char) : Option (Nat × List Char) :=
  let cs := cs.dropWhile isBlank
  let rec digits : Nat → List Char → List Char × List Char
    | 0, cs => ([], cs)
    | fuel + 1, c :: cs =>
      if c.isDigit then
        let (ds, rest) := digits fuel (s.skip cs)
        (c :: ds, rest)
      else ([], c :: cs)
    | _, [] => ([], [])
  let (ds, rest) := digits cs.length cs
  let n := ds.foldl (fun n d => n * 10 + (d.toNat - 48)) 0
  if ds.isEmpty || decide (UInt32.size ≤ n) then none else some (n, rest.dropWhile isBlank)

/-- The limits of a repetition behind an opening brace, and the text behind the closing one. -/
def limits? (s : Settings) (cs : List Char) : Option (Nat × Option Nat × List Char) := do
  let (low, rest) ← decimal? s (s.skip cs)
  match s.skip rest with
  | '\x7d' :: rest => return (low, some low, rest)
  | ',' :: rest =>
    match s.skip rest with
    | '\x7d' :: rest => return (low, none, rest)
    | rest => do
      let (high, rest) ← decimal? s rest
      match s.skip rest with
      | '\x7d' :: rest => if low ≤ high then return (low, some high, rest) else none
      | _ => none
  | _ => none

/-- The text without a question mark at its beginning. -/
def dropLazy : List Char → List Char
  | '?' :: rest => rest
  | cs => cs

/-- The characters of the names of groups. -/
def isNameChar (first : Bool) (c : Char) : Bool :=
  let letter := isLetter c || hasCategory [.letterNumber] c || isLetterSymbol c
  c == '_' || letter ||
    (!first && (c == '.' || c == '[' || c == ']' || hasCategory [.digit, .otherNumber] c))

/-- The name of a group and the text behind its closing bracket. -/
def groupName? (names : List (List Char)) (cs : List Char) : Option (List Char × List Char) :=
  match splitFirst '>' cs with
  | some (c :: name, rest) =>
    if isNameChar true c && name.all (isNameChar false) && !names.contains (c :: name) then
      some (c :: name, rest)
    else none
  | _ => none

/-- Sets or clears one setting. -/
def Settings.change? (s : Settings) (value : Bool) : Char → Option Settings
  | 'i' => some { s with ignoreCase := value }
  | 'm' => some { s with multiLine := value }
  | 's' => some { s with dotAll := value }
  | 'U' => some s
  | 'u' => some { s with unicode := value }
  | 'R' => some { s with crlf := value }
  | 'x' => some { s with spaced := value }
  | _ => none

/-- The letters of settings up to a colon or parenthesis, which is left. Each may stand once, and
something has to stand behind the hyphen before those that are cleared. -/
def settings? : (value afterHyphen : Bool) → (seen : List Char) → Settings → List Char →
    Option (Settings × List Char)
  | _, _, _, _, [] => none
  | value, afterHyphen, seen, s, c :: rest =>
    if c = ':' ∨ c = ')' then (if afterHyphen then none else some (s, c :: rest))
    else if c = '-' then (if value then settings? false true seen s rest else none)
    else if seen.contains c then none
    else
      match s.change? value c with
      | none => none
      | some s => settings? value false (c :: seen) s rest

/-- What stands behind an opening parenthesis, up to what the group holds. -/
inductive GroupStart where
  /-- Settings for the rest of the group around. -/
  | change (s : Settings)
  /-- A group with its own settings. -/
  | opens (s : Settings)

/-- The beginning of a group behind its parenthesis. -/
def groupStart? (r : Reader) : Option (GroupStart × Reader) :=
  match r.settings.skip r.rest with
  | '?' :: '=' :: _ => none
  | '?' :: '!' :: _ => none
  | '?' :: '<' :: '=' :: _ => none
  | '?' :: '<' :: '!' :: _ => none
  | '?' :: 'P' :: '<' :: rest =>
    (groupName? r.names rest).map fun (name, rest) =>
      (.opens r.settings, { r with rest := rest, names := name :: r.names })
  | '?' :: '<' :: rest =>
    (groupName? r.names rest).map fun (name, rest) =>
      (.opens r.settings, { r with rest := rest, names := name :: r.names })
  | '?' :: rest =>
    match settings? true false [] r.settings rest with
    | none => none
    | some (s, ':' :: rest') => some (.opens s, { r with rest := rest' })
    | some (s, _ :: rest') =>
      if rest.head? = some ')' then none else some (.change s, { r with rest := rest' })
    | some (_, []) => none
  | rest => some (.opens r.settings, { r with rest := rest })

/-- One character or escape that is no group, set or repetition. -/
def atom? (s : Settings) : List Char → Option (Pattern × List Char)
  | [] => none
  | '.' :: rest => s.dot?.map fun p => (p, rest)
  | '^' :: rest => some (.assertion s.lineStart s.isWord, rest)
  | '$' :: rest => some (.assertion s.lineEnd s.isWord, rest)
  | '\\' :: rest =>
    match escape? s rest with
    | none => none
    | some (.char c raw, rest) => if s.allows c raw then some (s.literal c, rest) else none
    | some (.set set, rest) => some (s.ofSet set, rest)
    | some (.assertion a, rest) => some (.assertion a s.isWord, rest)
  | c :: rest => some (s.literal c, rest)

mutual

/-- The alternatives up to the end of the group or text. -/
def choice? : Nat → Reader → Option (Part × Reader)
  | 0, _ => none
  | fuel + 1, r =>
    match sequence? fuel [] r with
    | none => none
    | some (first, r) =>
      match r.rest with
      | '|' :: rest =>
        match choice? fuel { r with rest := rest } with
        | none => none
        | some (others, r) =>
          match first.pattern, others.pattern with
          | some a, some b => some (⟨some (.alt a b), max (first.depth + 1) others.depth⟩, r)
          | _, _ => none
      | _ => some (first, r)

/-- The parts up to the end of the alternative, added to those before, of which the last comes
first. -/
def sequence? : Nat → (before : List Part) → Reader → Option (Part × Reader)
  | 0, _, _ => none
  | fuel + 1, before, r =>
    let s := r.settings
    let stop := some (joinParts before.reverse, { r with rest := s.skip r.rest })
    let again (low : Nat) (high : Option Nat) (rest : List Char) :=
      match before with
      | [] => none
      | part :: parts =>
        match repeatPart? low high part with
        | none => none
        | some part => sequence? fuel (part :: parts) { r with rest := dropLazy rest }
    match s.skip r.rest with
    | [] => stop
    | ')' :: _ => stop
    | '|' :: _ => stop
    | '?' :: rest => again 0 (some 1) rest
    | '*' :: rest => again 0 none rest
    | '+' :: rest => again 1 none rest
    | '\x7b' :: rest =>
      match limits? s rest with
      | none => none
      | some (low, high, rest) => again low high (s.skip rest)
    | '[' :: rest =>
      match set? s (2 * rest.length + 2) rest with
      | none => none
      | some (set, rest) => sequence? fuel (⟨some (s.ofSet set), 1⟩ :: before) { r with rest := rest }
    | '(' :: rest =>
      match groupStart? { r with rest := rest } with
      | none => none
      | some (.change s, r) => sequence? fuel (⟨none, 0⟩ :: before) { r with settings := s }
      | some (.opens inner, r) =>
        match choice? fuel { r with settings := inner } with
        | some (part, ⟨')' :: rest, _, names⟩) =>
          sequence? fuel (⟨part.pattern, part.depth + 1⟩ :: before) ⟨rest, s, names⟩
        | _ => none
    | cs =>
      match atom? s cs with
      | none => none
      | some (p, rest) => sequence? fuel (⟨some p, 0⟩ :: before) { r with rest := rest }

end

/-- The greatest weight of a pattern that is accepted. -/
def maxWeight : Nat := 10 <<< 20

/-- The pattern of a text. -/
def parse? (s : String) : Option Pattern :=
  let cs := s.toList
  match choice? (2 * cs.length + 2) { rest := cs } with
  | some (⟨some p, depth⟩, ⟨[], _, _⟩) =>
    if depth ≤ maxDepth && p.weight ≤ maxWeight then some p else none
  | _ => none

end ImageSync.Pattern
