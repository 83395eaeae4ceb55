import ImageSync.SystemError
import ImageSync.Text.Split
import ImageSync.Text.Utf8

/-!
# Paths

A path is a text whose steps are separated by slashes. File names are bytes, so a path is a list of
pieces and only its display is text.

## Main definitions

* `Path`, `Name`: pieces; a name has no slash.
* `Path.steps p`: root, `.`, `..` and names, read from left to right.
* `Path.absolute? home p`: the path made absolute by its text alone.
* `Path.relativeTo? base p`: the path `p` as seen from `base`.
* `Path.lastName? p`: the name of the file that a path leads to.
-/

namespace ImageSync

open Text
open Text.Utf8 (Piece)

/-- The name of a file in its directory. -/
abbrev Name := List Piece

/-- The text of a path. -/
abbrev Path := List Piece

namespace Path

/-- The pieces of a text. -/
def ofString (s : String) : Path := s.toList.map Piece.char

/-- A path as it is displayed. -/
def shown (p : Path) : String := String.ofList (p.map Piece.shown)

/-- The bytes of a path. -/
def bytes (p : Path) : List UInt8 := p.flatMap Piece.bytes

/-- The character between steps. -/
def slash : Piece := .char '/'

/-- Whether a path starts at the root. -/
def isAbsolute (p : Path) : Bool := p.head? == some slash

/-- Whether a path ends in a slash. -/
def endsInSlash (p : Path) : Bool := p.getLast? == some slash

/-- The name of the directory itself. -/
def hereName : Name := ofString "."

/-- The name of the directory above. -/
def upName : Name := ofString ".."

/-- One step of a path. -/
inductive Step where
  /-- To the root. -/
  | root
  /-- To the same place. -/
  | here
  /-- To the directory above. -/
  | up
  /-- To the entry of that name. -/
  | name (n : Name)
deriving DecidableEq, Repr

/-- The text of a step that is not the root. -/
def Step.text : Step → Path
  | .root => []
  | .here => hereName
  | .up => upName
  | .name n => n

/-- The texts between the slashes, empty ones left out. -/
def segments (p : Path) : List Name := (splitOn slash p).filter fun n => !n.isEmpty

/-- The step of a segment. A segment `.` is no step. -/
def Step.ofSegment (n : Name) : Option Step :=
  if n = hereName then none
  else if n = upName then some .up
  else some (.name n)

/-- The steps of a path. Repeated slashes are one and a `.` counts only where a relative path
begins. -/
def steps (p : Path) : List Step :=
  let inner := (segments p).filterMap Step.ofSegment
  if isAbsolute p then .root :: inner
  else if (splitOn slash p).head? = some hereName then .here :: inner
  else inner

/-- The text of steps. -/
def ofSteps : List Step → Path
  | .root :: steps => slash :: joinWith slash (steps.map Step.text)
  | steps => joinWith slash (steps.map Step.text)

/-- The paths above a path, from the nearest on: one step less each time. -/
def parents (p : Path) : List Path :=
  let ss := steps p
  let shortest := if ss.head? = some .root then 1 else 0
  ((List.range ss.length).filter fun n => shortest ≤ n).reverse.map fun n => ofSteps (ss.take n)

/-- The path without slashes at its end; the root keeps one. -/
def withoutEnd (p : Path) : Path :=
  let trimmed := trimEnd (fun c => c == slash) p
  if trimmed.isEmpty && isAbsolute p then [slash] else trimmed

/-- The path behind the steps of another path, if it starts with them. -/
def relativeTo? (base p : Path) : Option Path :=
  let inner := steps p
  let outer := steps base
  if outer.isEmpty then some (withoutEnd p)
  else if outer.isPrefixOf inner then some (ofSteps (inner.drop outer.length))
  else none

/-- The name at the end of a path; there is none where the last step is the root, `.` or `..`. -/
def lastName? (p : Path) : Option Name :=
  match (steps p).getLast? with
  | some (.name n) => some n
  | _ => none

/-- One name appended to a path, with a slash between unless the path ends in one. -/
def append (p : Path) (n : Name) : Path :=
  if p.isEmpty || endsInSlash p then p ++ n else p ++ slash :: n

/-- The path made absolute by its text alone. A relative path starts at `home`; steps `.` and
repeated slashes go, steps `..` and one slash at the end stay, and so do exactly two slashes at the
beginning. -/
def absolute? (home p : Path) : Except SystemError Path :=
  if p.isEmpty then .error .emptyPath
  else
    let names := (segments p).filter fun n => n ≠ hereName
    let start :=
      if isAbsolute p then
        if p.take 2 = [slash, slash] ∧ (p.drop 2).head? ≠ some slash then [slash, slash]
        else [slash]
      else home
    let whole := names.foldl append start
    .ok (if endsInSlash p && !endsInSlash whole then whole ++ [slash] else whole)

@[simp] theorem shown_ofString (s : String) : shown (ofString s) = s := by
  simp [shown, ofString, Function.comp_def]

@[simp] theorem Step.text_name (n : Name) : (Step.name n).text = n := rfl

end Path

end ImageSync
