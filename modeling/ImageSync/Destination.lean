import ImageSync.Files.Create
import ImageSync.Image
import ImageSync.SyncError

/-!
# Destinations

Where the copy of an image goes. Its place is named after the place of the source: scoped copies keep
the whole name below the root, others only its last component.

## Main definitions

* `Destination.nameOf image base isScoped`: the part of the name that comes from the source.
* `Destination.join root name`: that name below a root.
* `Destination.prepare tree location transport`: the image at a place; for a directory the place must
  be free and is created.
-/

namespace ImageSync.Destination

open Text

/-- What stands behind the last slash, slashes at the end apart. -/
def lastComponent (cs : List Char) : List Char :=
  let cs := trimEnd (fun c => c == '/') cs
  match splitLast '/' cs with
  | some (_, last) => last
  | none => cs

/-- The name of an image directory: its path below the directory that was searched, or that
directory's own name. -/
def folderName (path : Path) : Option Path → Path
  | none => path
  | some base =>
    match Path.relativeTo? base path with
    | none => path
    | some [] => (Path.lastName? base).getD []
    | some rest => rest

/-- The part of a destination's name that comes from the source. -/
def nameOf (image : Image) (base : Option Path) (isScoped : Bool) : String :=
  let whole :=
    match image with
    | .inRegistry r => r.text
    | .inFolder p => (folderName p base).shown
  if isScoped then whole else String.ofList (lastComponent whole.toList)

/-- A name below a root, with one slash between. -/
def joinChars (root name : List Char) : List Char :=
  let name := trimStart (fun c => c == '/') name
  if root.isEmpty then name
  else if name.isEmpty then root
  else trimEnd (fun c => c == '/') root ++ '/' :: name

/-- A name below a root, with one slash between. -/
def join (root name : String) : String := String.ofList (joinChars root.toList name.toList)

/-- A new directory for an image. Whatever the place leads to already is left alone. -/
def prepareFolder (tree : FileTree) (location : String) : Except SyncError Image × FileTree :=
  let path := Path.ofString location
  match tree.stat path with
  | .ok _ => (.error (.destinationExists location), tree)
  | .error e =>
    if e ≠ .notFound then (.error (.destinationUnusable location e), tree)
    else
      match tree.makeFolders path with
      | (.error e, tree) => (.error (.destinationNotCreated location e), tree)
      | (.ok (), tree) =>
        match Image.ofFolder tree path with
        | .error e => (.error (.destinationUnusable location e), tree)
        | .ok image => (.ok image, tree)

/-- The image at a place, which for a directory is created. -/
def prepare (tree : FileTree) (location : String) :
    DestinationTransport → Except SyncError Image × FileTree
  | .registry =>
    match Reference.parse location with
    | .error e => (.error (.reference e), tree)
    | .ok r => (.ok (.inRegistry r), tree)
  | .folder => prepareFolder tree location

theorem prepare_registry_tree (tree : FileTree) (location : String) :
    (prepare tree location .registry).2 = tree := by
  simp only [prepare]
  split <;> rfl

end ImageSync.Destination
