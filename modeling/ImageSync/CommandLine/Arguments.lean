import ImageSync.CommandLine.Words
import ImageSync.Copy.Command
import ImageSync.Transport

/-!
# Arguments

What the command line says. The options of the log and the time limit can stand in front of the
command or behind it, and behind it they count more.

## Main definitions

* `Globals`, `SideFlags`, `Arguments`: what the command line says.
* `Environment`: what the environment says.
* `Arguments.parse`: reads the words of a command line.
-/

namespace ImageSync.CommandLine

/-- How the log is written. -/
inductive LogFormat where
  | text
  | json
deriving DecidableEq, Repr

/-- What holds for every command. -/
structure Globals where
  logLevel : Option String := none
  logFormat : Option LogFormat := none
  /-- The time limit in seconds. -/
  timeout : Option Nat := none
deriving DecidableEq, Repr

/-- What is said of one side. -/
structure SideFlags where
  credentials : Option String := none
  password : Option String := none
  certDir : Option String := none
  verify : Option Bool := none
  token : Option String := none
  anonymous : Bool := false
deriving DecidableEq, Repr

/-- What the words of the command say so far. -/
structure Draft where
  globals : Globals := {}
  sourceTransport : Option SourceTransport := none
  destinationTransport : Option DestinationTransport := none
  isScoped : Bool := false
  copy : CopyOptions := {}
  sourceFlags : SideFlags := {}
  destinationFlags : SideFlags := {}
  retries : UInt32 := 3
  retryDelay : Option Nat := none
  copyTool : String := defaultCopyTool

/-- What the command line says. -/
structure Arguments where
  logLevel : String
  logFormat : LogFormat
  /-- The time limit in seconds. -/
  timeout : Option Nat
  sourceTransport : SourceTransport
  destinationTransport : DestinationTransport
  isScoped : Bool
  copy : CopyOptions
  sourceFlags : SideFlags
  destinationFlags : SideFlags
  retries : UInt32
  /-- The wait between attempts in seconds. -/
  retryDelay : Option Nat
  copyTool : String
  source : String
  destination : String
deriving DecidableEq, Repr

/-- What the environment says. -/
structure Environment where
  sourcePassword : Option String := none
  destinationPassword : Option String := none
deriving DecidableEq, Repr

/-! ## Values -/

/-- A number in decimal digits, at most `limit`; a plus sign may stand in front. -/
def number? (limit : Nat) (s : String) : Option Nat :=
  let digits := match s.toList with
    | '+' :: cs => cs
    | cs => cs
  if digits.isEmpty || !digits.all Char.isDigit then none
  else
    let n := digits.foldl (fun n c => n * 10 + (c.toNat - 48)) 0
    if n ≤ limit then some n else none

/-- The largest number of 32 bits. -/
def maxWord : Nat := UInt32.size - 1

/-- The largest number of 64 bits. -/
def maxLongWord : Nat := UInt64.size - 1

/-- A number of retries. Zero may have a minus sign. -/
def retries? (s : String) : Option UInt32 :=
  let plain := match s.toList with
    | '-' :: cs => if !cs.isEmpty && cs.all (· = '0') then "0" else s
    | _ => s
  (number? maxWord plain).map UInt32.ofNat

/-- An option whose value is read. -/
def reading {σ α : Type} (read : String → Option α) (put : α → σ → σ) : Effect σ :=
  .store fun s x =>
    match read s with
    | some a => .ok (put a x)
    | none => .error .unreadableValue

/-- An option whose value is one of a few. -/
def choosing {σ α : Type} (choices : List (String × α)) (put : α → σ → σ) : Effect σ :=
  .store fun s x =>
    match choices.lookup s with
    | some a => .ok (put a x)
    | none => .error .badValue

/-- An option whose value is any text. -/
def keeping {σ : Type} (put : String → σ → σ) : Effect σ := .store fun s x => .ok (put s x)

/-- An option whose value is a path, which is not empty. -/
def keepingPath {σ : Type} (put : String → σ → σ) : Effect σ :=
  .store fun s x => if s.isEmpty then .error .badValue else .ok (put s x)

/-! ## Options -/

/-- The options that hold for every command, as options of other settings. -/
def globalOptions {σ : Type} (update : (Globals → Globals) → σ → σ) : List (CommandOption σ) := [
  ⟨"log-level", none, keeping fun s => update fun g => { g with logLevel := some s }⟩,
  ⟨"log-format", none, choosing [("text", LogFormat.text), ("json", .json)] fun f =>
    update fun g => { g with logFormat := some f }⟩,
  ⟨"command-timeout", none, reading (number? maxLongWord) fun n =>
    update fun g => { g with timeout := some n }⟩,
  ⟨"help", some 'h', .stop .helpAsked⟩]

/-- The options of one side. -/
def sideOptions (start : String) (update : (SideFlags → SideFlags) → Draft → Draft) :
    List (CommandOption Draft) := [
  ⟨start ++ "-creds", none, keeping fun s => update fun f => { f with credentials := some s }⟩,
  ⟨start ++ "-password", none, keeping fun s => update fun f => { f with password := some s }⟩,
  ⟨start ++ "-cert-dir", none, keepingPath fun s => update fun f => { f with certDir := some s }⟩,
  ⟨start ++ "-tls-verify", none, choosing [("true", true), ("false", false)] fun b =>
    update fun f => { f with verify := some b }⟩,
  ⟨start ++ "-registry-token", none, keeping fun s => update fun f => { f with token := some s }⟩,
  ⟨start ++ "-no-creds", none, .mark (update fun f => { f with anonymous := true })⟩]

/-- The options of the command. -/
def syncOptions : List (CommandOption Draft) := [
  ⟨"src", some 's', reading SourceTransport.ofName? fun t d => { d with sourceTransport := some t }⟩,
  ⟨"dest", some 'd', reading DestinationTransport.ofName? fun t d =>
    { d with destinationTransport := some t }⟩,
  ⟨"scoped", none, .mark fun d => { d with isScoped := true }⟩,
  ⟨"all", some 'a', .mark fun d => { d with copy.all := true }⟩,
  ⟨"remove-signatures", none, .mark fun d => { d with copy.removeSignatures := true }⟩,
  ⟨"sign-by", none, keeping fun s d => { d with copy.signBy := some s }⟩,
  ⟨"format", some 'f', reading ManifestFormat.ofName? fun f d => { d with copy.format := some f }⟩,
  ⟨"retry-times", none, reading retries? fun n d => { d with retries := n }⟩,
  ⟨"retry-delay", none, reading (number? maxLongWord) fun n d => { d with retryDelay := some n }⟩,
  ⟨"copy-command", none, keeping fun s d => { d with copyTool := s }⟩]

/-- The words behind the command. -/
def syncGrammar : Grammar Draft where
  options := syncOptions ++
    sideOptions "src" (fun f d => { d with sourceFlags := f d.sourceFlags }) ++
    sideOptions "dest" (fun f d => { d with destinationFlags := f d.destinationFlags }) ++
    globalOptions fun f d => { d with globals := f d.globals }
  operands := 2

/-- The words in front of the command. -/
def mainGrammar : Grammar Globals where
  options := globalOptions id ++ [⟨"version", some 'V', .stop .versionAsked⟩]
  commands := ["sync", "help"]

/-! ## Command lines -/

namespace Arguments

/-- What the words behind the command say, if nothing is missing. -/
def ofReading (r : Reading Draft) (environment : Environment) : Except UsageError Arguments :=
  let d := r.settings
  let withPassword (f : SideFlags) (p : Option String) : SideFlags :=
    { f with password := f.password <|> p }
  match d.sourceTransport, d.destinationTransport, r.operands with
  | some s, some t, [source, destination] => .ok {
      logLevel := d.globals.logLevel.getD "info", logFormat := d.globals.logFormat.getD .text
      timeout := d.globals.timeout, sourceTransport := s, destinationTransport := t
      isScoped := d.isScoped, copy := d.copy
      sourceFlags := withPassword d.sourceFlags environment.sourcePassword
      destinationFlags := withPassword d.destinationFlags environment.destinationPassword
      retries := d.retries, retryDelay := d.retryDelay, copyTool := d.copyTool
      source := source, destination := destination }
  | _, _, _ => .error .missingArgument

/-- The same with what was said in front of the command. -/
def withGlobals (a : Arguments) (behind front : Globals) : Arguments := { a with
  logLevel := (behind.logLevel <|> front.logLevel).getD "info"
  logFormat := (behind.logFormat <|> front.logFormat).getD .text
  timeout := behind.timeout <|> front.timeout }

/-- What is asked of the command that explains the others. -/
def helpOn : List String → UsageError
  | [] => .helpAsked
  | ["sync"] => .helpAsked
  | ["help"] => .helpAsked
  | _ => .unknownCommand

/-- Reads the words of a command line. What is wrong with the words behind the command counts more
than the value of the last option in front of it. -/
def parse (words : List String) (environment : Environment) : Except UsageError Arguments :=
  match mainGrammar.read false { settings := {} } words with
  | .error e => .error e
  | .ok (r, none) => .error (if r.given.isEmpty then .nothingGiven else .noCommand)
  | .ok (r, some (command, words)) =>
    if command = "help" then .error (helpOn words)
    else
      match syncGrammar.read false { settings := {} } words with
      | .error e => .error e
      | .ok (behind, _) =>
        match ofReading behind environment, r.settle with
        | .error e, _ => .error e
        | _, .error e => .error e
        | .ok a, .ok front => .ok (a.withGlobals behind.settings.globals front.settings)

end Arguments

end ImageSync.CommandLine
