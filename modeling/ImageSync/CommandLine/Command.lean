import ImageSync.CommandLine.Settings
import ImageSync.Copy.Tool
import ImageSync.Registry.Listing
import ImageSync.Run.Script

/-!
# The command

Carries out what the command line says, with registries on a network and a tool that copies images.

## Main definitions

* `Machine`: the network, the tools, how registries are asked and how patterns are read.
* `Machine.services`: the services for a run.
* `Machine.carryOut`: carries out the command.
* `World.lines`: what is written into the log.
-/

namespace ImageSync

namespace CommandLine

/-- What a command works with. -/
structure Machine (ν τ : Type) where
  network : Http.Network ν
  tools : Tools τ
  lister : Lister := {}
  /-- What is said about a text that is no pattern. -/
  explainPattern : String → String

variable {ν τ : Type}

/-- The services for a run that copies with a tool. -/
def Machine.services (m : Machine ν τ) (copyTool : String) : Services (ν × τ) where
  listTags := fun tree access repository s =>
    let (tags, network) := (m.lister.list m.network.following tree access repository).run s.1
    ({ result := tags }, (network, s.2))
  copy := fun job tree s =>
    let (reply, tree, tools) := m.tools.copy copyTool job tree s.2
    (reply, tree, (s.1, tools))
  pattern := Script.pattern m.explainPattern

/-- Carries out the command. -/
def Machine.carryOut (m : Machine ν τ) (a : Arguments) :
    Work (ν × τ) (Except (Halt CommandError) Summary) :=
  match a.options with
  | .error e => pure (.error (.failed e))
  | .ok o => do
    match ← ((m.services a.copyTool).run a.source a.destination o).orCut with
    | some result => return result.mapError (Halt.map (.run a.source))
    | none => return .error (.failed (.run a.source .cancelled))

end CommandLine

/-- What the journal of a run says for the log: its lines, and a line for each event. -/
def World.lines {σ : Type} (w : World σ) : List LogLine :=
  w.journal.filterMap fun h =>
    match h.2 with
    | .log line => some line
    | .event e => some e.logLine
    | _ => none

end ImageSync
