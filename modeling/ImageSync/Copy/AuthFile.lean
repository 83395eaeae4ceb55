import ImageSync.Copy.Job
import ImageSync.Json.Parser
import ImageSync.Json.Printer
import ImageSync.Text.Base64
import ImageSync.Text.Utf8

/-!
# Auth files

The credentials for a registry are handed to a tool in a file, so that they do not show among its
arguments. The file names the host of the registry and holds user name and password in base 64, with
a colon between.

## Main definitions

* `AuthFile`: what such a file says.
* `AuthFile.json`, `AuthFile.text`, `AuthFile.parse?`: its text, written and read.
* `CopyJob.authFile? job side`: the file that one side of a copy needs.
-/

namespace ImageSync

open Text

/-- What an auth file says. -/
structure AuthFile where
  /-- The host of the registry. -/
  host : String
  credentials : Credentials
deriving DecidableEq, Repr

namespace AuthFile

/-- User name and password in base 64. -/
def encoded (c : Credentials) : String :=
  String.ofList (Base64.encode (Utf8.encode (c.username.toList ++ ':' :: c.password.toList)))

/-- User name and password: the text before and after the first colon. -/
def decode? (s : String) : Option Credentials := do
  let cs ← Utf8.decode? (← Base64.decode? s.toList)
  let (username, password) ← splitFirst ':' cs
  some ⟨String.ofList username, String.ofList password⟩

/-- The content of the file. -/
def json (f : AuthFile) : Json :=
  .object [("auths", .object [(f.host, .object [("auth", .string (encoded f.credentials))])])]

/-- The text of the file. -/
def text (f : AuthFile) : String := f.json.text

/-- What a file with one registry says. -/
def ofJson? : Json → Option AuthFile
  | .object [("auths", .object [(host, .object [("auth", .string s)])])] =>
    (decode? s).map fun c => ⟨host, c⟩
  | _ => none

/-- What the text of a file with one registry says. -/
def parse? (s : String) : Option AuthFile := (Json.parse? s).bind ofJson?

end AuthFile

namespace CopyJob

/-- The image on one side of a copy. -/
def image (job : CopyJob) : Side → Image
  | .source => job.source
  | .destination => job.destination

/-- The settings of one side of a copy. -/
def access (job : CopyJob) : Side → Access
  | .source => job.sourceAccess
  | .destination => job.destinationAccess

/-- The auth file that one side of a copy needs: one for a registry to which credentials are
presented. -/
def authFile? (job : CopyJob) (side : Side) : Option AuthFile :=
  match (job.image side).reference?, (job.access side).presented with
  | some r, some c => some ⟨r.host, c⟩
  | _, _ => none

end CopyJob

end ImageSync
