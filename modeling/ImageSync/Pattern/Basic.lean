import ImageSync.Text.Category

/-!
# Patterns

A pattern describes texts. It matches a text if some stretch of it fits, so a pattern that has to fit
the whole text says so at both ends.

## Main definitions

* `Pattern`: characters, assertions about a position, sequences, choices and repetitions.
* `Pattern.ends p text i`: where the stretches that begin at `i` and fit the pattern end.
* `Pattern.accepts p s`: whether the pattern matches a text.
* `Pattern.weight`: how large a machine for the pattern would be.
-/

namespace ImageSync

open Text

/-- What can be asserted about a position in a text. -/
inductive Assertion where
  | textStart
  | textEnd
  /-- Where a line begins; `crlf` makes a carriage return part of a line break. -/
  | lineStart (crlf : Bool)
  | lineEnd (crlf : Bool)
  | wordBoundary
  | noWordBoundary
  | wordStart
  | wordEnd
  /-- Behind no word character. -/
  | notBehindWord
  /-- Before no word character. -/
  | notBeforeWord
deriving DecidableEq, Repr

/-- A description of texts. -/
inductive Pattern where
  | empty
  /-- One character of a set. `weight` is the size of a machine that knows the set. -/
  | one (accepts : Char → Bool) (weight : Nat)
  /-- An assertion; `isWord` says what a word consists of. -/
  | assertion (a : Assertion) (isWord : Char → Bool)
  | seq (a b : Pattern)
  | alt (a b : Pattern)
  /-- At least `low` times and, if there is a limit, at most `high` times. -/
  | rep (low : Nat) (high : Option Nat) (p : Pattern)

namespace Assertion

/-- Whether an assertion holds between two characters; `none` stands for the end of the text. -/
def holds (isWord : Char → Bool) (before after : Option Char) : Assertion → Bool
  | textStart => before.isNone
  | textEnd => after.isNone
  | lineStart false => before.all (· == '\n')
  | lineStart true => before.all fun c => c == '\n' || (c == '\r' && after != some '\n')
  | lineEnd false => after.all (· == '\n')
  | lineEnd true => after.all fun c => c == '\r' || (c == '\n' && before != some '\r')
  | wordBoundary => before.any isWord != after.any isWord
  | noWordBoundary => before.any isWord == after.any isWord
  | wordStart => !before.any isWord && after.any isWord
  | wordEnd => before.any isWord && !after.any isWord
  | notBehindWord => !before.any isWord
  | notBeforeWord => !after.any isWord

end Assertion

namespace Pattern

/-- The positions that a step leads to from some positions, each once. -/
def advance (step : Nat → List Nat) (is : List Nat) : List Nat := (is.flatMap step).eraseDups

/-- The positions after exactly `n` steps. -/
def exactly (step : Nat → List Nat) : Nat → List Nat → List Nat
  | 0, is => is
  | n + 1, is => if is.isEmpty then [] else exactly step n (advance step is)

/-- The positions after at most `n` steps; `seen` are those known before. -/
def atMost (step : Nat → List Nat) : Nat → (seen fresh : List Nat) → List Nat
  | 0, seen, fresh => seen ++ fresh
  | n + 1, seen, fresh =>
    if fresh.isEmpty then seen
    else
      let seen := seen ++ fresh
      atMost step n seen ((advance step fresh).filter fun i => !seen.contains i)

/-- Where the stretches end that begin at position `i` and fit the pattern. -/
def ends (text : Array Char) : Pattern → Nat → List Nat
  | empty, i => [i]
  | one accepts _, i => if text[i]?.any accepts then [i + 1] else []
  | assertion a isWord, i =>
    let before := if i = 0 then none else text[i - 1]?
    if a.holds isWord before text[i]? then [i] else []
  | seq a b, i => advance (ends text b) (ends text a i)
  | alt a b, i => (ends text a i ++ ends text b i).eraseDups
  | rep low high p, i =>
    let required := exactly (ends text p) low [i]
    let further := match high with
      | none => text.size + 1
      | some n => n - low
    atMost (ends text p) further [] required

/-- Whether a stretch of the text fits the pattern. -/
def accepts (p : Pattern) (s : String) : Bool :=
  let text := s.toList.toArray
  (List.range (text.size + 1)).any fun i => !(ends text p i).isEmpty

/-- The size of one state of a machine. -/
def stateWeight : Nat := 32

/-- The size of a machine for the pattern. A repetition is written out as often as it may be
needed. -/
def weight : Pattern → Nat
  | empty => stateWeight
  | one _ w => w
  | assertion _ _ => stateWeight
  | seq a b => a.weight + b.weight
  | alt a b => a.weight + b.weight + stateWeight
  | rep low high p =>
    match high with
    | some n => stateWeight + n * p.weight
    | none => stateWeight + (max low 1) * p.weight

/-- Whether the pattern fits nothing but the empty stretch. -/
def isEmptyOnly : Pattern → Bool
  | empty => true
  | one _ _ => false
  | assertion _ _ => true
  | seq a b => a.isEmptyOnly && b.isEmptyOnly
  | alt a b => a.isEmptyOnly && b.isEmptyOnly
  | rep _ high p => p.isEmptyOnly || high == some 0

@[simp] theorem ends_empty (text : Array Char) (i : Nat) : ends text empty i = [i] := rfl

end Pattern

end ImageSync
