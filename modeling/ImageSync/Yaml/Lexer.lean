import ImageSync.Yaml.Scalar
import ImageSync.Yaml.Token

/-!
# From YAML texts to tokens

The structure of a text comes from signs and from indentation. Whether a text is a key shows only
at the colon behind it, so the place of every possible key is kept until then: it lies on one line
and has at most 1024 characters.

## Main definitions

* `Lexer`: the reader's state.
* `Lexer.step?`: one more token.
* `tokens?`: all tokens of a text, or `none` if it is no YAML.
-/

namespace ImageSync.Yaml

/-- Where a key may begin. -/
structure PossibleKey where
  /-- Whether nothing but a key may stand there. -/
  required : Bool
  /-- The number of tokens before it. -/
  position : Nat
  mark : Mark

/-- The state of a reader of tokens. -/
structure Lexer where
  rest : List Char
  mark : Mark := {}
  /-- Whether a key may begin here. -/
  keyAllowed : Bool := true
  /-- The possible key of each open bracket, the innermost first, and of the text around them. -/
  keys : List (Option PossibleKey) := [none]
  /-- The column of the current collection. -/
  indent : Int := -1
  /-- The columns of the collections around it. -/
  outer : List Int := []
  /-- The number of open brackets. -/
  depth : Nat := 0
  tokens : Array Token := #[]

namespace Lexer

/-- Whether a bracket is open. -/
def inFlow (l : Lexer) : Bool := l.depth != 0

/-- One token more. -/
def emit (l : Lexer) (t : Token) : Lexer := { l with tokens := l.tokens.push t }

/-- A number of characters less. -/
def skip (l : Lexer) (n : Nat) : Lexer :=
  { l with rest := l.rest.drop n, mark := l.mark.afterAll (l.rest.take n) }

/-- Blanks, comments and line breaks before the next token. Tabs count as blanks only where no key
may begin. -/
def gap (inFlow : Bool) : (keyAllowed comment : Bool) → Mark → List Char → Bool × Mark × List Char
  | keyAllowed, _, m, [] => (keyAllowed, m, [])
  | keyAllowed, comment, m, c :: cs =>
    if isBreak c then gap inFlow (keyAllowed || !inFlow) false (m.after c) cs
    else if comment then gap inFlow keyAllowed true (m.after c) cs
    else if c == byteOrderMark && m.index == 0 then gap inFlow keyAllowed false (m.after c) cs
    else if c == ' ' || (c == '\t' && (inFlow || !keyAllowed)) then
      gap inFlow keyAllowed false (m.after c) cs
    else if c == '#' then gap inFlow keyAllowed true (m.after c) cs
    else (keyAllowed, m, c :: cs)

/-- The state behind the gap before the next token. -/
def skipGap (l : Lexer) : Lexer :=
  let (keyAllowed, mark, rest) := gap l.inFlow l.keyAllowed false l.mark l.rest
  { l with keyAllowed := keyAllowed, mark := mark, rest := rest }

/-- Gives up a possible key; that is an error if it was required. -/
def giveUp? : Option PossibleKey → Option (Option PossibleKey)
  | none => some none
  | some k => if k.required then none else some none

/-- Gives up the possible keys that lie on an earlier line or too far back. -/
def dropStale? (l : Lexer) : Option Lexer := do
  let keys ← l.keys.mapM fun key =>
    match key with
    | some k =>
      if k.mark.line < l.mark.line ∨ k.mark.index + 1024 < l.mark.index then giveUp? key
      else some key
    | none => some none
  return { l with keys := keys }

/-- Gives up the possible key of the innermost bracket. -/
def dropKey? (l : Lexer) : Option Lexer :=
  match l.keys with
  | [] => some l
  | key :: keys => (giveUp? key).map fun key => { l with keys := key :: keys }

/-- Remembers that a key may begin here. -/
def saveKey? (l : Lexer) : Option Lexer :=
  if l.keyAllowed then do
    let l ← l.dropKey?
    let required := !l.inFlow && l.indent == (l.mark.column : Int)
    return { l with keys := some ⟨required, l.tokens.size, l.mark⟩ :: l.keys.drop 1 }
  else some l

/-- Begins a collection at a column, unless one has begun there already or a bracket is open. Its
token goes to the given position. -/
def indentTo (l : Lexer) (column position : Nat) (start : Token) : Lexer :=
  if l.inFlow || decide ((column : Int) ≤ l.indent) then l
  else
    { l with
      outer := l.indent :: l.outer, indent := column
      tokens := l.tokens.insertIdxIfInBounds position start }

/-- Ends the collections that lie to the right of a column. -/
def unindentTo (column : Int) (tokens : Array Token) : Int → List Int → Array Token × Int × List Int
  | indent, [] => (if column < indent then tokens.push .blockEnd else tokens, min indent column, [])
  | indent, i :: outer =>
    if column < indent then unindentTo column (tokens.push .blockEnd) i outer
    else (tokens, indent, i :: outer)

/-- Ends the collections that lie to the right of a column, unless a bracket is open. -/
def unindent (l : Lexer) (column : Int) : Lexer :=
  if l.inFlow then l
  else
    let (tokens, indent, outer) := unindentTo column l.tokens l.indent l.outer
    { l with tokens := tokens, indent := indent, outer := outer }

/-- The state at the end of all collections, where no key is possible. -/
def outermost? (l : Lexer) : Option Lexer :=
  (l.unindent (-1)).dropKey?.map fun l => { l with keyAllowed := false }

/-! ## Tokens of several characters -/

/-- A number of at most nine digits. -/
def versionNumber? (cs : List Char) : Option (Nat × List Char) :=
  let ds := cs.takeWhile Char.isDigit
  if ds.isEmpty || decide (9 < ds.length) then none
  else some (ds.foldl (fun n d => n * 10 + (d.toNat - 48)) 0, cs.drop ds.length)

/-- The handle of a tag: a name between exclamation marks, or one mark. -/
def tagHandle? : List Char → Option (List Char × List Char)
  | '!' :: cs =>
    let name := cs.takeWhile isNameChar
    match cs.dropWhile isNameChar with
    | '!' :: rest => some ('!' :: name ++ ['!'], rest)
    | rest => some ('!' :: name, rest)
  | _ => none

/-- The characters of a tag. Between angle brackets there may be some more. -/
def isTagChar (verbatim : Bool) (c : Char) : Bool :=
  isNameChar c || ";/?:@&=+$.!~*'()".toList.contains c || (verbatim && ",[]".toList.contains c)

/-- The value of two hexadecimal digits behind a percent sign. -/
def percentByte? : List Char → Option (Nat × List Char)
  | '%' :: a :: b :: rest => do
    let high ← hexValue? a
    let low ← hexValue? b
    return (high * 16 + low, rest)
  | _ => none

/-- The number of bytes of a character with that first byte. -/
def encodedLength? (b : Nat) : Option Nat :=
  if b < 0x80 then some 1
  else if 0xC0 ≤ b ∧ b < 0xE0 then some 2
  else if 0xE0 ≤ b ∧ b < 0xF0 then some 3
  else if 0xF0 ≤ b ∧ b < 0xF8 then some 4
  else none

/-- The bytes of one character that is written with percent signs, and what follows. -/
def percentBytes? : Nat → List Char → Option (List Nat × List Char)
  | 0, cs => some ([], cs)
  | n + 1, cs => do
    let (b, rest) ← percentByte? cs
    if b / 64 ≠ 2 then none
    let (bs, rest) ← percentBytes? n rest
    return (b :: bs, rest)

/-- The rest of a tag. Characters written with percent signs are checked and kept as they are. -/
def tagRest? (verbatim : Bool) : Nat → List Char → Option (List Char × List Char)
  | 0, cs => some ([], cs)
  | fuel + 1, c :: cs =>
    if c = '%' then do
      let (b, rest) ← percentByte? (c :: cs)
      let n ← encodedLength? b
      let (_, rest) ← percentBytes? (n - 1) rest
      let (tag, rest) ← tagRest? verbatim fuel rest
      return ('%' :: tag, rest)
    else if isTagChar verbatim c then do
      let (tag, rest) ← tagRest? verbatim fuel cs
      return (c :: tag, rest)
    else some ([], c :: cs)
  | _, [] => some ([], [])

/-- The rest of a tag, as far as the text goes. -/
def wholeTagRest? (verbatim : Bool) (cs : List Char) : Option (List Char × List Char) :=
  tagRest? verbatim (cs.length + 1) cs

/-- A tag with its handle. -/
def tag? (cs : List Char) : Option (Token × List Char) :=
  match cs with
  | '!' :: '<' :: rest => do
    let (text, rest) ← wholeTagRest? true rest
    if text.isEmpty then none
    match rest with
    | '>' :: rest => return (.tag [] text, rest)
    | _ => none
  | _ => do
    let (handle, rest) ← tagHandle? cs
    let (text, rest) ← wholeTagRest? false rest
    if 2 ≤ handle.length ∧ handle.getLast? = some '!' then
      if text.isEmpty then none else return (.tag handle text, rest)
    else
      let text := handle.drop 1 ++ text
      if text.isEmpty then return (.tag [] ['!'], rest) else return (.tag ['!'] text, rest)

/-- A directive behind its percent sign, without the rest of its line. -/
def directive? (cs : List Char) : Option (Token × List Char) :=
  let name := cs.takeWhile isNameChar
  let rest := cs.dropWhile isNameChar
  if name.isEmpty || !endsWord rest then none
  else if name = "YAML".toList then do
    let (major, rest) ← versionNumber? (rest.dropWhile isBlank)
    match rest with
    | '.' :: rest => do
      let (minor, rest) ← versionNumber? rest
      return (.version major minor, rest)
    | _ => none
  else if name = "TAG".toList then do
    let (handle, rest) ← tagHandle? (rest.dropWhile isBlank)
    if handle ≠ ['!'] ∧ (handle.length < 2 ∨ handle.getLast? ≠ some '!') then none
    if !rest.head?.any isBlank then none
    let (start, rest) ← wholeTagRest? true (rest.dropWhile isBlank)
    if start.isEmpty || !endsWord rest then none
    return (.tagShorthand handle start, rest)
  else none

/-- The name of an anchor or alias behind its sign. -/
def anchorName? (cs : List Char) : Option (List Char × List Char) :=
  let name := cs.takeWhile isNameChar
  let rest := cs.dropWhile isNameChar
  if name.isEmpty then none
  else if endsWord rest || rest.head?.any fun c => "?:,]\x7d%@`".toList.contains c then
    some (name, rest)
  else none

/-- The state behind a token that ends where `rest` begins. -/
def goTo (l : Lexer) (t : Token) (rest : List Char) : Lexer :=
  (l.skip (l.rest.length - rest.length)).emit t

/-! ## One token -/

/-- A sign that opens a bracket. -/
def openBracket? (l : Lexer) (t : Token) : Option Lexer := do
  let l ← l.saveKey?
  let l := { l with keys := none :: l.keys, depth := l.depth + 1, keyAllowed := true }
  return (l.skip 1).emit t

/-- A sign that closes a bracket. -/
def closeBracket? (l : Lexer) (t : Token) : Option Lexer := do
  let l ← l.dropKey?
  let l := if l.inFlow then { l with keys := l.keys.drop 1, depth := l.depth - 1 } else l
  return ({ l with keyAllowed := false }.skip 1).emit t

/-- The comma between entries in brackets. -/
def flowEntry? (l : Lexer) : Option Lexer := do
  let l ← l.dropKey?
  return ({ l with keyAllowed := true }.skip 1).emit .flowEntry

/-- The hyphen before an entry of a list. -/
def blockEntry? (l : Lexer) : Option Lexer := do
  if !l.inFlow && !l.keyAllowed then none
  let l := l.indentTo l.mark.column l.tokens.size .blockSequenceStart
  let l ← l.dropKey?
  return ({ l with keyAllowed := true }.skip 1).emit .blockEntry

/-- The question mark before a key. -/
def explicitKey? (l : Lexer) : Option Lexer := do
  if !l.inFlow && !l.keyAllowed then none
  let l := l.indentTo l.mark.column l.tokens.size .blockMappingStart
  let l ← l.dropKey?
  return ({ l with keyAllowed := !l.inFlow }.skip 1).emit .key

/-- The colon before a value. It makes a key of what began at the possible key. -/
def value? (l : Lexer) : Option Lexer :=
  match l.keys with
  | some k :: keys =>
    let l := { l with
      keys := none :: keys, keyAllowed := false
      tokens := l.tokens.insertIdxIfInBounds k.position .key }
    let l := l.indentTo k.mark.column k.position .blockMappingStart
    some ((l.skip 1).emit .value)
  | _ =>
    if !l.inFlow && !l.keyAllowed then none
    else
      let l := l.indentTo l.mark.column l.tokens.size .blockMappingStart
      some (({ l with keyAllowed := !l.inFlow }.skip 1).emit .value)

/-- A token behind which no key can begin, before which one can. -/
def keyed? (l : Lexer) (read : Lexer → Option Lexer) : Option Lexer := do
  let l ← l.saveKey?
  read { l with keyAllowed := false }

/-- An anchor or alias. -/
def named? (make : List Char → Token) (l : Lexer) : Option Lexer := do
  let (name, rest) ← anchorName? (l.rest.drop 1)
  return l.goTo (make name) rest

/-- A tag. -/
def tagged? (l : Lexer) : Option Lexer := do
  let (t, rest) ← tag? l.rest
  if endsWord rest || (l.inFlow && rest.head? == some ',') then return l.goTo t rest else none

/-- The state behind a scalar. -/
def scalar (l : Lexer) (style : Style) (text : List Char) (mark : Mark) (rest : List Char) : Lexer :=
  ({ l with mark := mark, rest := rest }).emit (.scalar style text)

/-- A block of lines. -/
def block? (l : Lexer) (style : Style) : Option Lexer := do
  let l ← l.dropKey?
  let l := { l with keyAllowed := true }
  let start := l.skip 1
  let s ← Yaml.block? (style == .literal) l.indent start.mark start.rest
  return l.scalar style s.value s.mark s.rest

/-- A scalar between quotes. -/
def quoted? (read : Mark → List Char → Option (Scanned Folding)) (l : Lexer) : Option Lexer := do
  let start := l.skip 1
  let s ← read start.mark start.rest
  return l.scalar .quoted s.value.text.reverse s.mark s.rest

/-- A plain scalar. -/
def plain? (l : Lexer) : Option Lexer := do
  let s ← plainFrom l.inFlow (l.indent + 1) {} l.mark l.rest
  let l := l.scalar .plain s.value.text.reverse s.mark s.rest
  return { l with keyAllowed := l.keyAllowed || s.value.broken }

/-- Whether a plain scalar may begin with these characters. -/
def beginsPlain (inFlow : Bool) : List Char → Bool
  | [] => false
  | c :: rest =>
    if c == '-' then !rest.head?.any Yaml.isBlank
    else if c == '?' || c == ':' then !inFlow && !endsWord rest
    else !(Yaml.isBlank c || isBreak c || ",[]\x7b\x7d#&*!|>'\"%@`".toList.contains c)

/-- A document mark. -/
def documentMark? (l : Lexer) (t : Token) : Option Lexer :=
  l.outermost?.map fun l => (l.skip 3).emit t

/-- A directive with its line. -/
def wholeDirective? (l : Lexer) : Option Lexer := do
  let l ← l.outermost?
  let (t, rest) ← directive? (l.rest.drop 1)
  let l := l.goTo t rest
  let (mark, rest) ← restOfLine? l.mark l.rest
  return { l with mark := mark, rest := rest }

/-- The state behind the next token, which begins with the character `c`. -/
def next? (l : Lexer) (c : Char) (cs : List Char) : Option Lexer :=
  let atStart := l.mark.column == 0
  if atStart && c == '%' then l.wholeDirective?
  else if atStart && isDocumentMark '-' (c :: cs) then l.documentMark? .documentStart
  else if atStart && isDocumentMark '.' (c :: cs) then l.documentMark? .documentEnd
  else if c == '[' then l.openBracket? .flowSequenceStart
  else if c == '\x7b' then l.openBracket? .flowMappingStart
  else if c == ']' then l.closeBracket? .flowSequenceEnd
  else if c == '\x7d' then l.closeBracket? .flowMappingEnd
  else if c == ',' then l.flowEntry?
  else if c == '-' && endsWord cs then l.blockEntry?
  else if c == '?' && (l.inFlow || endsWord cs) then l.explicitKey?
  else if c == ':' && (l.inFlow || endsWord cs) then l.value?
  else if c == '*' then l.keyed? (named? .alias)
  else if c == '&' then l.keyed? (named? .anchor)
  else if c == '!' then l.keyed? tagged?
  else if c == '|' && !l.inFlow then l.block? .literal
  else if c == '>' && !l.inFlow then l.block? .folded
  else if c == '\'' then l.keyed? (quoted? (singleFrom {}))
  else if c == '"' then l.keyed? (quoted? (doubleFrom .text {}))
  else if beginsPlain l.inFlow (c :: cs) then l.keyed? plain?
  else none

/-- The state behind one more token; the tokens themselves at the end of the text. -/
def step? (l : Lexer) : Option (Lexer ⊕ Array Token) := do
  let l ← l.skipGap.dropStale?
  let l := l.unindent l.mark.column
  match l.rest with
  | [] => do
    let l ← l.outermost?
    return .inr l.tokens
  | c :: cs => do
    let l ← l.next? c cs
    return .inl l

/-- The tokens of the text that is left. Each step takes a character away. -/
def run? : Nat → Lexer → Option (Array Token)
  | 0, _ => none
  | fuel + 1, l =>
    match l.step? with
    | none => none
    | some (.inr tokens) => some tokens
    | some (.inl l) => run? fuel l

end Lexer

/-- The tokens of a text, unless it is no YAML. -/
def tokens? (s : String) : Option (List Token) := do
  let cs ← prepare? s.toList
  let tokens ← Lexer.run? (cs.length + 1) { rest := cs }
  return tokens.toList

end ImageSync.Yaml
