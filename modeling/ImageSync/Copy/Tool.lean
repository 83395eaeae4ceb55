import ImageSync.Copy.Command
import ImageSync.Files.Tree
import ImageSync.Run.Services
import ImageSync.Text.Excerpt

/-!
# Tools

A tool is a program that is started with arguments and ends by itself or by a signal. What it prints
as its complaint is kept when it ends without success. The auth files that it needs are written
before, and nothing is started if one of them cannot be.

## Main definitions

* `ToolEnd`, `ToolRun`: how a tool ended.
* `ToolCall`: a start of a tool.
* `Tools`: what starts tools.
* `Tools.authFault?`: why an auth file that a copy needs cannot be written.
* `Tools.copy`: copies an image with a tool.
-/

namespace ImageSync

open Text

/-- How a tool ended. -/
inductive ToolEnd where
  /-- By itself, with this status. -/
  | exit (status : UInt8)
  /-- By this signal. -/
  | signal (number : Nat)
deriving DecidableEq, Repr

namespace ToolEnd

/-- The names of the signals, from the first on. -/
def signalNames : List String := [
  "SIGHUP", "SIGINT", "SIGQUIT", "SIGILL", "SIGTRAP", "SIGABRT", "SIGBUS", "SIGFPE", "SIGKILL",
  "SIGUSR1", "SIGSEGV", "SIGUSR2", "SIGPIPE", "SIGALRM", "SIGTERM", "SIGSTKFLT", "SIGCHLD",
  "SIGCONT", "SIGSTOP", "SIGTSTP", "SIGTTIN", "SIGTTOU", "SIGURG", "SIGXCPU", "SIGXFSZ",
  "SIGVTALRM", "SIGPROF", "SIGWINCH", "SIGIO", "SIGPWR", "SIGSYS"]

/-- How a tool ended, in words. -/
def text : ToolEnd → String
  | exit status => "exit status: " ++ toString status
  | signal n =>
    let name := match n with
      | 0 => none
      | k + 1 => signalNames[k]?
    "signal: " ++ toString n ++ ((name.map fun s => " (" ++ s ++ ")").getD "")

/-- Whether a tool ended with success. -/
def isSuccess : ToolEnd → Bool
  | exit status => status == 0
  | signal _ => false

end ToolEnd

/-- A run of a tool: how it ended, what it complained about and how long it took. -/
structure ToolRun where
  ended : ToolEnd := .exit 0
  stderr : List UInt8 := []
  takes : Nat := 0

/-- A start of a tool. -/
structure ToolCall where
  program : String
  arguments : List String
  /-- The auth files that lie at their places while the tool runs. -/
  sourceAuth : Option AuthFile
  destinationAuth : Option AuthFile
deriving DecidableEq, Repr

/-- What starts tools. -/
structure Tools (σ : Type) where
  /-- Where the auth file of a side is written. -/
  authPlace : Side → String
  /-- Why the auth file of a side cannot be written now, if it cannot. -/
  authFault : Side → σ → Option SystemError := fun _ _ => none
  /-- Starts a tool, or says why it cannot be started. -/
  start : ToolCall → FileTree → σ → Except SystemError ToolRun × FileTree × σ

/-- The start of a tool that copies an image. -/
def CopyJob.call (job : CopyJob) (program : String) (authPlace : Side → String) : ToolCall where
  program := program
  arguments := job.arguments (job.authPaths authPlace)
  sourceAuth := job.authFile? .source
  destinationAuth := job.authFile? .destination

namespace Tools

variable {σ : Type}

/-- The longest excerpt of a complaint that goes into an error, in bytes. -/
def maxExcerpt : Nat := 2000

/-- What is said of tokens, which show among the arguments. -/
def tokenWarning : LogLine :=
  ⟨.warn, "Registry tokens are passed to the copy command as arguments"⟩

/-- What a run of a tool means for the copy. -/
def outcome (run : ToolRun) : Except CopyError Unit :=
  if run.ended.isSuccess then .ok ()
  else
    .error (.toolFailed run.ended.text
      (String.ofList (Excerpt.tail maxExcerpt (Utf8.decodeLossy run.stderr))))

/-- Why an auth file that a copy needs cannot be written. That of the source is written first. -/
def authFault? (t : Tools σ) (job : CopyJob) (s : σ) : Option SystemError :=
  [Side.source, .destination].findSome? fun side =>
    (job.authFile? side).bind fun _ => t.authFault side s

/-- Copies an image with a tool. -/
def copy (t : Tools σ) (program : String) (job : CopyJob) (tree : FileTree) (s : σ) :
    Reply CopyError Unit × FileTree × σ :=
  let notes := if job.sourceAccess.token.isSome || job.destinationAccess.token.isSome
    then [tokenWarning] else []
  match t.authFault? job s with
  | some e => ({ result := .error (.authFile e), notes := notes }, tree, s)
  | none =>
    match t.start (job.call program t.authPlace) tree s with
    | (.error e, tree, s) =>
      ({ result := .error (.notStarted program e), notes := notes }, tree, s)
    | (.ok run, tree, s) =>
      ({ result := outcome run, takes := run.takes, notes := notes }, tree, s)

/-- Why a program that is no tool cannot be started. One without a slash in its name is looked for
among the programs of the system and not found. -/
def startError (tree : FileTree) (program : String) : SystemError :=
  let path := Path.ofString program
  if Path.slash ∈ path then
    match tree.stat path with
    | .error e => e
    | .ok _ => .permissionDenied
  else .notFound

end Tools

end ImageSync
