import ImageSync.Pattern.Parser
import ImageSync.Run.Services

/-!
# Scripted services

Services that answer as a script says, for rehearsals of a run. The n-th call for a name gets the
n-th answer of its list, and the last answer repeats.

## Main definitions

* `Script`: the answers.
* `Script.services`: services that follow the script.
-/

namespace ImageSync

/-- What services answer, by the names of repositories and the texts of sources. -/
structure Script where
  /-- What is said about a text that is no pattern. -/
  explainPattern : String → String
  listings : List (String × List (Reply RegistryError (List String))) := []
  copies : List (String × List (Reply CopyError Unit)) := []

namespace Script

/-- The names for which services have been called, the latest first. -/
structure Calls where
  listings : List String := []
  copies : List String := []

/-- The answer with the given number, or the last one. -/
def answer? {α : Type} (answers : List α) (n : Nat) : Option α := (answers[n]?).or answers.getLast?

/-- The answer to one more call for a name. -/
def next? {α : Type} (script : List (String × List α)) (calls : List String) (name : String) :
    Option α :=
  (script.lookup name).bind fun answers => answer? answers (calls.count name)

/-- Reads a pattern. The reader of patterns has its own words for what is wrong with a text. -/
def pattern (explain : String → String) (text : String) : Except String Matcher :=
  match Pattern.parse? text with
  | some p => .ok p.accepts
  | none => .error (explain text)

/-- Services that follow a script. A repository that it does not name is unknown, and a copy that it
does not name succeeds at once. -/
def services (s : Script) : Services Calls where
  listTags := fun _ _ repository calls =>
    let reply := (next? s.listings calls.listings repository.name).getD
      { result := .error (.unknownRepository repository.name) }
    (reply, { calls with listings := repository.name :: calls.listings })
  copy := fun job tree calls =>
    let reply := (next? s.copies calls.copies job.source.text).getD { result := .ok () }
    (reply, tree, { calls with copies := job.source.text :: calls.copies })
  pattern := pattern s.explainPattern

end Script

end ImageSync
