import ImageSync.Catalog.Reader
import ImageSync.Files.Images
import ImageSync.Plan.Expand

/-!
# From a source to a plan

What a source text means depends on its transport: a repository or an image in a registry, a
directory to search for images, or the path of a catalog.

## Main definitions

* `Plan.ofRegistry`, `Plan.ofFolder`, `Plan.ofCatalog`: the plan of each kind of source.
* `Plan.resolve`: the plan of a source.
-/

namespace ImageSync.Plan

variable {σ : Type}

/-- The plan of a reference: the image it names, or all images of the repository it names. -/
def ofRegistry (s : Services σ) (base : Access) (source : String) :
    Work σ (Except SyncError Plan) :=
  match Reference.parse source with
  | .error e => return .error (.reference e)
  | .ok named => do
    Work.report (.tagChecked source (!named.isRepository))
    let listed ← if named.isRepository then listImages s base named else pure (.ok [named])
    match listed with
    | .error e => return .error e
    | .ok references =>
      if references.isEmpty then return .error (.noImages source)
      else return .ok (empty.add { images := references.map .inRegistry, access := base })

/-- The image directories below the path of a source, with that path made absolute. -/
def searchFolder (tree : FileTree) (source : String) : Except SyncError (Path × List Path) :=
  let path := Path.ofString source
  match tree.stat path with
  | .error e => .error (.badSource source e)
  | .ok _ =>
    match tree.absolute? path with
    | .error e => .error (.badSource source e)
    | .ok base =>
      match tree.findImages base with
      | .error e => .error (.search base.shown e.path.shown e.cause)
      | .ok found => .ok (base, found)

/-- The plan of a directory: the images found in it. -/
def ofFolder (base : Access) (source : String) : Work σ (Except SyncError Plan) := do
  let w ← Work.world
  match searchFolder w.tree source with
  | .error e => return .error e
  | .ok (root, found) =>
    match found.mapM (Image.ofFolder w.tree) with
    | .error e => return .error (.badSource source e)
    | .ok images =>
      if images.isEmpty then return .error (.noImages source)
      else do
        Work.log (.withValues .info "Found image directories"
          [("count", toString images.length), ("path", root.shown)])
        return .ok (empty.add { images := images, access := base, base := some root })

/-- The plan of a catalog. -/
def ofCatalog (s : Services σ) (base : Access) (source : String) :
    Work σ (Except SyncError Plan) := do
  let w ← Work.world
  match Catalog.load w.tree source with
  | .error e => return .error (.settings e)
  | .ok catalog => return .ok (← Expansion.ofEntries s base empty catalog.registries)

/-- The plan of a source. -/
def resolve (s : Services σ) (base : Access) (source : String) :
    SourceTransport → Work σ (Except SyncError Plan)
  | .registry => ofRegistry s base source
  | .folder => ofFolder base source
  | .catalog => ofCatalog s base source

end ImageSync.Plan
