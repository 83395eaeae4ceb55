/-!
# Log lines

What the program says while it runs: a level and a text. Named values follow the text, as
`name=value`.
-/

namespace ImageSync

/-- How important a line is. -/
inductive Level where
  | debug
  | info
  | warn
  | error
deriving DecidableEq, Repr

/-- The name of a level. -/
def Level.name : Level → String
  | .debug => "DEBUG"
  | .info => "INFO"
  | .warn => "WARN"
  | .error => "ERROR"

/-- One line of the log. -/
structure LogLine where
  level : Level
  text : String
deriving DecidableEq, Repr

/-- A line with named values behind its text. -/
def LogLine.withValues (level : Level) (text : String) (values : List (String × String)) : LogLine :=
  ⟨level, values.foldl (fun line v => line ++ " " ++ v.1 ++ "=" ++ v.2) text⟩

end ImageSync
