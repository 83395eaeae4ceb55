/-!
# Tokens of YAML texts
-/

namespace ImageSync.Yaml

/-- How a scalar is written. -/
inductive Style where
  | plain
  | quoted
  /-- Behind a bar: line breaks count. -/
  | literal
  | folded
deriving DecidableEq, Repr

/-- A token. Collections that are written by indentation have tokens for their beginning and end. -/
inductive Token where
  | version (major minor : Nat)
  | tagShorthand (handle start : List Char)
  | documentStart
  | documentEnd
  | blockSequenceStart
  | blockMappingStart
  | blockEnd
  | flowSequenceStart
  | flowSequenceEnd
  | flowMappingStart
  | flowMappingEnd
  | blockEntry
  | flowEntry
  | key
  | value
  | alias (name : List Char)
  | anchor (name : List Char)
  | tag (handle rest : List Char)
  | scalar (style : Style) (text : List Char)
deriving DecidableEq, Repr

end ImageSync.Yaml
