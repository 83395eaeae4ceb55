import ImageSync.Catalog.Error
import ImageSync.CommandLine.Arguments
import ImageSync.Run.Execute

/-!
# Settings of a command

The settings of a run follow from the arguments. Credentials are checked here: they have a user name
and contradict a side that is to stay anonymous.

## Main definitions

* `SideFlags.access`: how a side is connected to.
* `CommandError`: why a command failed.
* `Arguments.options`: the settings of the run.
-/

namespace ImageSync.CommandLine

/-- The credentials of a side. A password that is not among them is taken from elsewhere. -/
def SideFlags.readCredentials (f : SideFlags) : Except SettingsError (Option Credentials) :=
  match f.credentials with
  | none => .ok none
  | some text =>
    match Credentials.parse? text with
    | none => .error (.badCredentials "expected USERNAME[:PASSWORD]")
    | some c =>
      if c.password.isEmpty then .ok (some { c with password := f.password.getD "" })
      else .ok (some c)

/-- How a side is connected to. -/
def SideFlags.access (f : SideFlags) : Except SettingsError Access := do
  let credentials ← f.readCredentials
  if f.anonymous && credentials.isSome then
    throw (.badCredentials "credentials and --*-no-creds are mutually exclusive")
  let skip := f.verify.map skipOfVerify
  return {
    certDir := f.certDir, daemonCertDir := f.certDir, skipVerify := skip
    daemonSkipVerify := skip.getD false, credentials := credentials, token := f.token
    anonymous := f.anonymous }

/-- Why a command failed. -/
inductive CommandError where
  /-- The settings of a side cannot be used. -/
  | settings (side : Side) (cause : SettingsError)
  /-- The run failed. -/
  | run (source : String) (cause : SyncError)
deriving Repr

/-- The wording of an error with those below it. -/
def CommandError.message : CommandError → String
  | settings side e =>
    ": ".intercalate (("invalid " ++ side.name ++ " options") :: e.message :: e.causes)
  | run source e =>
    ": ".intercalate (("sync of \"" ++ source ++ "\" failed") :: e.message :: e.causes)

/-- The settings of one side of the run. -/
def sideAccess (side : Side) (f : SideFlags) : Except CommandError Access :=
  match f.access with
  | .ok a => .ok a
  | .error e => .error (.settings side e)

/-- The settings of the run. -/
def Arguments.options (a : Arguments) : Except CommandError RunOptions := do
  let source ← sideAccess .source a.sourceFlags
  let destination ← sideAccess .destination a.destinationFlags
  return {
    sourceTransport := a.sourceTransport, destinationTransport := a.destinationTransport
    isScoped := a.isScoped, copy := a.copy, retry := ⟨a.retries, a.retryDelay.map (· * 1000)⟩
    sourceAccess := source, destinationAccess := destination }

end ImageSync.CommandLine
