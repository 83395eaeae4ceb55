import ImageSync.SystemError
import ImageSync.Text.Case
import ImageSync.Text.Split

/-!
# Errors of a copy

Why an image could not be copied, and whether another attempt may help. What a tool prints decides
about its failures: some words say that the trouble will pass.

## Main definitions

* `CopyError`, `CopyError.message`: the causes and their wording.
* `CopyError.isTransient`: whether another attempt may help.
-/

namespace ImageSync

open Text

/-- Why an image could not be copied. -/
inductive CopyError where
  /-- The tool could not be started. -/
  | notStarted (program : String) (cause : SystemError)
  /-- The file with the credentials could not be written. -/
  | authFile (cause : SystemError)
  /-- The tool ended without success. -/
  | toolFailed (status stderr : String)
  /-- The copy failed in the program itself. -/
  | failed (text : String) (transient : Bool)
  /-- The copy was broken off. -/
  | cancelled
deriving DecidableEq, Repr

namespace CopyError

/-- The wording of a cause. -/
def message : CopyError → String
  | notStarted program e => "failed to start copy command '" ++ program ++ "': " ++ e.message
  | authFile e => "failed to write registry auth file: " ++ e.message
  | toolFailed status stderr => "copy command exited with " ++ status ++ ": " ++ stderr
  | failed text _ => text
  | cancelled => "transfer cancelled"

/-- The words of a tool that say that its trouble will pass. -/
def transientMarkers : List String := [
  "timeout", "timed out", "connection reset", "connection refused", "broken pipe",
  "unexpected eof", "tls handshake", "too many requests", "502 bad gateway",
  "503 service unavailable", "504 gateway timeout", "temporary failure"]

/-- Whether a text, in any case of its letters, holds one of the transient markers. -/
def hasTransientMarker (text : List Char) : Bool :=
  transientMarkers.any fun marker => occurs marker.toList (lower text)

/-- Whether another attempt may help. -/
def isTransient : CopyError → Bool
  | toolFailed _ stderr => hasTransientMarker stderr.toList
  | failed _ transient => transient
  | _ => false

/-- The errors below this one, from the nearest on. -/
def causes : CopyError → List String
  | notStarted _ e => [e.message]
  | authFile e => [e.message]
  | _ => []

end CopyError

end ImageSync
