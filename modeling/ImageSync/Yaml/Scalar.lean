import ImageSync.Yaml.Text

/-!
# Scalars

The texts of YAML: plain, between quotes, or as a block of lines. A line break inside a plain or
quoted scalar stands for a space, and so do those of a folded block; more breaks in a row stand for
one less.

## Main definitions

* `Folding`: a text under construction and the blanks behind it.
* `plain?`, `quoted?`, `block?`: the scalar at a position and what follows it.
-/

namespace ImageSync.Yaml

/-- What a reader of a scalar leaves: the text, the position behind it and the rest. -/
structure Scanned (α : Type) where
  value : α
  mark : Mark
  rest : List Char

/-! ## Folded line breaks -/

/-- A text under construction, last character first, with the blanks read behind it. -/
structure Folding where
  text : List Char := []
  /-- Blanks before the first line break. -/
  blanks : List Char := []
  /-- Whether a line break has been read since the last word. -/
  broken : Bool := false
  /-- The first line break, unless it was escaped. -/
  firstBreak : Option Char := none
  /-- The line breaks behind the first. -/
  breaks : List Char := []

namespace Folding

/-- One more blank. Those at the beginning of a line do not count. -/
def blank (f : Folding) (c : Char) : Folding :=
  if f.broken then f else { f with blanks := c :: f.blanks }

/-- One more line break. -/
def lineBreak (f : Folding) (c : Char) : Folding :=
  if f.broken then { f with breaks := c :: f.breaks }
  else { f with blanks := [], firstBreak := some c, broken := true }

/-- The text with the blanks and line breaks that were read behind it. -/
def flush (f : Folding) : Folding :=
  if f.broken then
    if f.firstBreak = some '\n' then
      ⟨if f.breaks.isEmpty then ' ' :: f.text else f.breaks ++ f.text, [], false, none, []⟩
    else ⟨f.breaks ++ f.firstBreak.toList ++ f.text, [], false, none, []⟩
  else ⟨f.blanks ++ f.text, [], false, none, []⟩

/-- One more character of the text. -/
def push (f : Folding) (c : Char) : Folding :=
  let f := f.flush
  { f with text := c :: f.text }

/-- Whether anything has been read behind the text. -/
def isBetween (f : Folding) : Bool := f.broken || !f.blanks.isEmpty

end Folding

/-! ## Plain scalars -/

/-- Whether a plain scalar inside brackets ends before these characters. -/
def isFlowSign (c : Char) : Bool := c == ',' || c == '[' || c == ']' || c == '\x7b' || c == '\x7d'

/-- Whether a document mark stands here, at the beginning of a line. -/
def atDocumentMark (m : Mark) (cs : List Char) : Bool :=
  m.column == 0 && (isDocumentMark '-' cs || isDocumentMark '.' cs)

/-- Reads on in a plain scalar. `indent` is the least column of its further lines. -/
def plainFrom (inFlow : Bool) (indent : Int) :
    Folding → Mark → List Char → Option (Scanned Folding)
  | f, m, [] => some ⟨f, m, []⟩
  | f, m, c :: cs =>
    if isBlank c then
      if f.broken && decide ((m.column : Int) < indent) && c == '\t' then none
      else plainFrom inFlow indent (f.blank c) (m.after c) cs
    else if isBreak c then plainFrom inFlow indent (f.lineBreak c) (m.after c) cs
    else
      let outside := f.isBetween && ((!inFlow && decide ((m.column : Int) < indent)) || c == '#')
      if outside || atDocumentMark m (c :: cs) then some ⟨f, m, c :: cs⟩
      else if inFlow && c == ':' && cs.head?.any fun d => isFlowSign d || d == '?' then none
      else if (c == ':' && endsWord cs) || (inFlow && isFlowSign c) then some ⟨f, m, c :: cs⟩
      else plainFrom inFlow indent (f.push c) (m.after c) cs

/-! ## Quoted scalars -/

/-- Where a reader stands between double quotes. -/
inductive QuoteState where
  | text
  /-- Behind a backslash. -/
  | escape
  /-- In a character code with that many digits to come. -/
  | code (left value : Nat)

/-- The character of an escape with one letter. -/
def escaped? (c : Char) : Option Char :=
  match c with
  | '0' => some '\x00'
  | 'a' => some '\x07'
  | 'b' => some '\x08'
  | 't' => some '\t'
  | '\t' => some '\t'
  | 'n' => some '\n'
  | 'v' => some '\x0B'
  | 'f' => some '\x0C'
  | 'r' => some '\r'
  | 'e' => some '\x1B'
  | ' ' => some ' '
  | '"' => some '"'
  | '/' => some '/'
  | '\\' => some '\\'
  | 'N' => some '\u0085'
  | '_' => some '\u00A0'
  | 'L' => some '\u2028'
  | 'P' => some '\u2029'
  | _ => none

/-- The number of digits of an escape with a character code. -/
def codeLength? (c : Char) : Option Nat :=
  match c with
  | 'x' => some 2
  | 'u' => some 4
  | 'U' => some 8
  | _ => none

/-- The value of a hexadecimal digit in either case. -/
def hexValue? (c : Char) : Option Nat :=
  if c.isDigit then some (c.toNat - 48)
  else if 'a' ≤ c ∧ c ≤ 'f' then some (c.toNat - 87)
  else if 'A' ≤ c ∧ c ≤ 'F' then some (c.toNat - 55)
  else none

/-- The character of a code, unless it is a surrogate or too large. -/
def charOfCode? (n : Nat) : Option Char :=
  if n.isValidChar then some (Char.ofNat n) else none

/-- Reads on between single quotes. A quote inside is written twice. -/
def singleFrom : Folding → Mark → List Char → Option (Scanned Folding)
  | _, _, [] => none
  | f, m, '\'' :: '\'' :: cs => singleFrom (f.push '\'') ((m.after '\'').after '\'') cs
  | f, m, c :: cs =>
    if c = '\'' then some ⟨f.flush, m.after c, cs⟩
    else if isBlank c then singleFrom (f.blank c) (m.after c) cs
    else if isBreak c then singleFrom (f.lineBreak c) (m.after c) cs
    else if atDocumentMark m (c :: cs) then none
    else singleFrom (f.push c) (m.after c) cs

/-- Reads on between double quotes. -/
def doubleFrom : QuoteState → Folding → Mark → List Char → Option (Scanned Folding)
  | _, _, _, [] => none
  | .text, f, m, c :: cs =>
    if c = '"' then some ⟨f.flush, m.after c, cs⟩
    else if isBlank c then doubleFrom .text (f.blank c) (m.after c) cs
    else if isBreak c then doubleFrom .text (f.lineBreak c) (m.after c) cs
    else if atDocumentMark m (c :: cs) then none
    else if c = '\\' then doubleFrom .escape f.flush (m.after c) cs
    else doubleFrom .text (f.push c) (m.after c) cs
  | .escape, f, m, c :: cs =>
    if isBreak c then doubleFrom .text { f with broken := true } (m.after c) cs
    else
      match escaped? c, codeLength? c with
      | some d, _ => doubleFrom .text (f.push d) (m.after c) cs
      | none, some n => doubleFrom (.code n 0) f (m.after c) cs
      | none, none => none
  | .code left value, f, m, c :: cs =>
    match hexValue? c with
    | none => none
    | some d =>
      let value := value * 16 + d
      if left ≤ 1 then
        match charOfCode? value with
        | some e => doubleFrom .text (f.push e) (m.after c) cs
        | none => none
      else doubleFrom (.code (left - 1) value) f (m.after c) cs

/-! ## Blocks of lines -/

/-- What happens to the line breaks at the end of a block. -/
inductive Chomp where
  /-- One is kept. -/
  | clip
  /-- None is kept. -/
  | strip
  /-- All are kept. -/
  | keep
deriving DecidableEq

/-- A block under construction. -/
structure Block where
  text : List Char := []
  /-- The column of its lines, once it is known. -/
  indent : Option Nat
  /-- The greatest column at which a line of the current gap began. -/
  widest : Nat := 0
  /-- The break of the last line. -/
  lineBreak : Option Char := none
  /-- The breaks of empty lines behind it. -/
  breaks : List Char := []
  /-- Whether the last line began with a blank. -/
  blankStart : Bool := false
  /-- Whether the reader stands inside a line. -/
  inLine : Bool := false

namespace Block

/-- The column of the lines, which the first line decides if the header does not; it is at least
the one behind `parent`. -/
def indentOr (b : Block) (parent : Int) : Nat :=
  b.indent.getD (max (max b.widest (parent + 1).toNat) 1)

/-- Begins a line whose first character is given. -/
def beginLine (literal : Bool) (b : Block) (c : Char) : Block :=
  let folds := !literal && b.lineBreak == some '\n' && !b.blankStart && !isBlank c
  let text :=
    if folds then (if b.breaks.isEmpty then ' ' :: b.text else b.text)
    else b.lineBreak.toList ++ b.text
  { b with
    text := c :: (b.breaks ++ text), lineBreak := none, breaks := [], blankStart := isBlank c
    inLine := true }

/-- The text of the whole block. -/
def finish (chomp : Chomp) (b : Block) : List Char :=
  let text := if chomp = .strip then b.text else b.lineBreak.toList ++ b.text
  let text := if chomp = .keep then b.breaks ++ text else text
  text.reverse

end Block

/-- Reads on in a block. `parent` is the column of the collection around it. -/
def blockFrom (literal : Bool) (parent : Int) :
    Block → Mark → List Char → Option (Scanned Block)
  | b, m, [] => some ⟨b, m, []⟩
  | b, m, c :: cs =>
    if b.inLine then
      if isBreak c then
        let b := { b with inLine := false, lineBreak := some c, widest := 0 }
        blockFrom literal parent b (m.after c) cs
      else blockFrom literal parent { b with text := c :: b.text } (m.after c) cs
    else
      let beforeText := b.indent.all fun n => decide (m.column < n)
      if beforeText && c == ' ' then blockFrom literal parent b (m.after c) cs
      else if beforeText && c == '\t' then none
      else
        let b := { b with widest := max b.widest m.column }
        if isBreak c then blockFrom literal parent { b with breaks := c :: b.breaks } (m.after c) cs
        else
          let indent := b.indentOr parent
          if m.column = indent then
            blockFrom literal parent ({ b with indent := some indent }.beginLine literal c)
              (m.after c) cs
          else some ⟨b, m, c :: cs⟩

/-- The signs behind the bar of a block: what happens at its end, and its indentation. -/
def blockHeader? : List Char → Option (Chomp × Option Nat × List Char)
  | cs =>
    let chomp? (c : Char) : Option Chomp :=
      if c = '+' then some .keep else if c = '-' then some .strip else none
    let digit (cs : List Char) : Option (Option Nat × List Char) :=
      match cs with
      | d :: rest =>
        if d = '0' then none
        else if d.isDigit then some (some (d.toNat - 48), rest)
        else some (none, cs)
      | [] => some (none, [])
    match cs with
    | [] => some (.clip, none, [])
    | c :: rest =>
      match chomp? c with
      | some chomp => (digit rest).map fun (n, rest) => (chomp, n, rest)
      | none =>
        match digit (c :: rest) with
        | none => none
        | some (none, _) => some (.clip, none, c :: rest)
        | some (some n, d :: more) =>
          match chomp? d with
          | some chomp => some (chomp, some n, more)
          | none => some (.clip, some n, d :: more)
        | some (some n, []) => some (.clip, some n, [])

/-- The rest of a line that may hold blanks and a comment only. -/
def restOfLine? (m : Mark) (cs : List Char) : Option (Mark × List Char) :=
  let blanks := cs.takeWhile isBlank
  let m := m.afterAll blanks
  let cs := cs.dropWhile isBlank
  let (m, cs) :=
    if cs.head? = some '#' then
      (m.afterAll (cs.takeWhile fun c => !isBreak c), cs.dropWhile fun c => !isBreak c)
    else (m, cs)
  match cs with
  | [] => some (m, [])
  | c :: rest => if isBreak c then some (m.after c, rest) else none

/-- The block behind its bar. -/
def block? (literal : Bool) (parent : Int) (m : Mark) (cs : List Char) :
    Option (Scanned (List Char)) :=
  match blockHeader? cs with
  | none => none
  | some (chomp, increment, rest) =>
    let m := m.afterAll (cs.take (cs.length - rest.length))
    match restOfLine? m rest with
    | none => none
    | some (m, rest) =>
      let indent := increment.map fun n => if 0 ≤ parent then parent.toNat + n else n
      match blockFrom literal parent { indent := indent } m rest with
      | none => none
      | some s => some ⟨s.value.finish chomp, s.mark, s.rest⟩

end ImageSync.Yaml
