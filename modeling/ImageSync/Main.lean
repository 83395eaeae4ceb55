import ImageSync.CommandLine.Command

/-!
# The program

Reads the command line and rehearses the command in a file tree that holds at most the catalog file.
Registries do not answer in a rehearsal and no tool can be started, so it shows what is planned and
the first step that needs one of them. The log goes to the standard error output.
-/

namespace ImageSync.Main

open CommandLine

/-- What the program is told by its user. -/
def usage : String :=
  "Usage: image-sync sync --src <TRANSPORT> --dest <TRANSPORT> [OPTIONS] <SOURCE> <DESTINATION>"

/-- The version of the program. -/
def version : String := "image-sync 0.1.0"

/-- What is said about words that are not understood. -/
def explain : UsageError → String
  | .helpAsked => usage
  | .versionAsked => version
  | .nothingGiven => usage
  | .noCommand => "error: a command is missing\n" ++ usage
  | .unknownCommand => "error: unknown command\n" ++ usage
  | .unknownArgument => "error: unexpected argument\n" ++ usage
  | .missingArgument => "error: a required argument is missing\n" ++ usage
  | .repeated => "error: an option is given twice\n" ++ usage
  | .badValue => "error: a value is missing or not possible\n" ++ usage
  | .unreadableValue => "error: a value cannot be read\n" ++ usage
  | .unwantedValue => "error: an option takes no value\n" ++ usage

/-- One line of the log as it is written. -/
def written (format : LogFormat) (line : LogLine) : String :=
  match format with
  | .text => line.level.name ++ " " ++ line.text
  | .json => Json.text (.object [("level", .string line.level.name), ("message", .string line.text)])

/-- What the program says when it stops at a number that is too large. -/
def overflow : String := "attempt to add with overflow"

/-- A machine without network and tools. -/
def machine : Machine Unit Unit where
  network := .down Unit
  tools := {
    authPlace := fun side => side.name ++ "-auth.json"
    start := fun call tree s => (.error (Tools.startError tree call.program), tree, s) }
  explainPattern := fun text => text ++ " is no regular expression"

/-- The directory that the program works in, with the catalog file if one is read. -/
def loadTree (a : Arguments) : IO FileTree := do
  let home ← IO.currentDir
  let place := Path.segments (Path.ofString home.toString)
  let folders := (FileTree.empty.makeFolders (Path.ofString home.toString)).2
  let tree := { folders with home := place }
  if a.sourceTransport = .catalog then
    try
      let bytes ← IO.FS.readBinFile a.source
      match tree.write (Path.ofString a.source) bytes.toList with
      | .ok tree => return tree
      | .error _ => return tree
    catch _ => return tree
  else return tree

/-- Rehearses the command and gives the status that the program ends with. -/
def rehearse (a : Arguments) : IO UInt32 := do
  let stderr ← IO.getStderr
  let world : World (Unit × Unit) :=
    { now := 0, tree := ← loadTree a, journal := [], services := ((), ()) }
  let (result, world) := (machine.carryOut a).run (a.timeout.map (· * 1000)) world
  for line in world.lines do
    stderr.putStrLn (written a.logFormat line)
  match result with
  | some (.ok summary) =>
    stderr.putStrLn (written a.logFormat (.withValues .info "Sync complete"
      [("images", toString summary.images), ("sources", toString summary.sources)]))
    return 0
  | some (.error (.failed e)) =>
    stderr.putStrLn (written a.logFormat ⟨.error, e.message⟩)
    return 1
  | some (.error .overflow) =>
    stderr.putStrLn overflow
    return 101
  | none => return 1

end ImageSync.Main

open ImageSync in
/-- The program. -/
def main (words : List String) : IO UInt32 := do
  let environment : CommandLine.Environment := {
    sourcePassword := ← IO.getEnv "REGSYNC_SRC_PASSWORD"
    destinationPassword := ← IO.getEnv "REGSYNC_DEST_PASSWORD" }
  match CommandLine.Arguments.parse words environment with
  | .ok a => Main.rehearse a
  | .error e =>
    (← IO.getStderr).putStrLn (Main.explain e)
    return e.exitStatus.toUInt32
