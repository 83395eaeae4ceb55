import ImageSync.Copy.AuthFile

/-!
# Commands

An image is copied by a tool. Its arguments say how each side is connected to, what is asked of the
copy, and last where from and where to.

## Main definitions

* `CopyJob.sideArguments`: how one side is connected to.
* `CopyOptions.arguments`: what is asked of the copy.
* `CopyJob.arguments`: all arguments.
-/

namespace ImageSync

/-- The tool that copies images if no other is named. -/
def defaultCopyTool : String := "skopeo"

/-- What the options of a side begin with. -/
def Side.optionStart : Side → String
  | .source => "--src"
  | .destination => "--dest"

namespace CopyJob

/-- Whether the peer is verified, if that was said. -/
def verifyArguments (start : String) (a : Access) : List String :=
  match a.skipVerify with
  | some true => [start ++ "-tls-verify=false"]
  | some false => [start ++ "-tls-verify=true"]
  | none => []

/-- How one side is connected to. `authPath` is where its auth file lies, if it has one. -/
def sideArguments (start : String) (a : Access) (authPath : Option String) : List String :=
  let valued (name : String) (value : Option String) : List String :=
    match value with
    | some v => [start ++ name, v]
    | none => []
  verifyArguments start a ++ valued "-cert-dir" a.certDir ++
    (if a.anonymous then [start ++ "-no-creds"] else valued "-authfile" authPath) ++
    valued "-registry-token" a.token

end CopyJob

/-- What is asked of a copy. -/
def CopyOptions.arguments (o : CopyOptions) : List String :=
  (if o.removeSignatures then ["--remove-signatures"] else []) ++
    (match o.signBy with
      | some key => ["--sign-by", key]
      | none => []) ++
    (match o.format with
      | some f => ["--format", f.name]
      | none => []) ++
    (if o.all then ["--all"] else [])

namespace CopyJob

/-- The arguments of the tool. `authPath` says where the auth files lie that there are. -/
def arguments (job : CopyJob) (authPath : Side → Option String) : List String :=
  let side (s : Side) : List String := sideArguments s.optionStart (job.access s) (authPath s)
  "copy" :: side .source ++ side .destination ++ job.options.arguments ++
    [job.source.text, job.destination.text]

/-- Where the auth files lie that a copy needs, if they are written to these places. -/
def authPaths (job : CopyJob) (place : Side → String) (side : Side) : Option String :=
  (job.authFile? side).map fun _ => place side

end CopyJob

end ImageSync
