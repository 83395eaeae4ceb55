import ImageSync.Destination
import ImageSync.Plan.Resolve
import ImageSync.Run.Attempts

/-!
# Runs

A run plans its source and copies the planned images one after the other. It ends at the first image
that cannot be copied, or where an attempt cannot be counted; images copied before stay copied.

## Main definitions

* `RunOptions`: the settings of a run.
* `Plan.execute`: copies the images of a plan.
* `Services.plan`, `Services.run`: plans a source, and carries the plan out.
-/

namespace ImageSync

/-- The settings of a run. -/
structure RunOptions where
  sourceTransport : SourceTransport
  destinationTransport : DestinationTransport
  /-- Whether destinations keep the whole names of their sources. -/
  isScoped : Bool := false
  copy : CopyOptions := {}
  retry : RetryPolicy := {}
  sourceAccess : Access := {}
  destinationAccess : Access := {}
deriving Repr

/-- What a run has done. -/
structure Summary where
  images : Nat
  sources : Nat
deriving DecidableEq, Repr

variable {σ : Type}

/-- The destination of an image. -/
def prepareDestination (destination : String) (options : RunOptions) (base : Option Path)
    (source : Image) : Work σ (Except SyncError Image) := do
  let location := Destination.join destination (Destination.nameOf source base options.isScoped)
  Work.note (.preparing location)
  let w ← Work.world
  let (result, tree) := Destination.prepare w.tree location options.destinationTransport
  Work.setWorld { w with tree := tree }
  return result

/-- The error of a run for the error of a copy. -/
def CopyJob.failure (job : CopyJob) : CopyError → SyncError
  | .cancelled => .cancelled
  | e => .copying job.source.text e

/-- Copies one image, with as many attempts as the settings allow. -/
def copyWithRetry (s : Services σ) (options : RunOptions) (job : CopyJob) :
    Work σ (Except (Halt SyncError) Unit) := do
  let copied ← Work.retrying options.retry ("Copying " ++ job.source.text) (s.copyImage job)
  return copied.mapError (Halt.map job.failure)

/-- Copies one image of a batch, number `index` of `total`. -/
def copyNext (s : Services σ) (destination : String) (options : RunOptions) (batch : Batch)
    (total index : Nat) (source : Image) : Work σ (Except (Halt SyncError) Unit) := do
  if ← Work.isCut then return .error (.failed .cancelled)
  match ← prepareDestination destination options batch.base source with
  | .error e => return .error (.failed e)
  | .ok target =>
    Work.report (.copying index total source.text target.text)
    copyWithRetry s options {
      source := source, destination := target, sourceAccess := batch.access
      destinationAccess := options.destinationAccess, options := options.copy }

/-- Copies the images of a batch that are left; the next one has number `index` of `total`. -/
def copyImages (s : Services σ) (destination : String) (options : RunOptions) (batch : Batch)
    (total : Nat) : (index : Nat) → List Image → Work σ (Except (Halt SyncError) Unit)
  | _, [] => return .ok ()
  | index, source :: rest => do
    match ← copyNext s destination options batch total index source with
    | .error e => return .error e
    | .ok () => copyImages s destination options batch total (index + 1) rest

/-- Copies the images of a batch. -/
def Batch.execute (s : Services σ) (destination : String) (options : RunOptions) (batch : Batch) :
    Work σ (Except (Halt SyncError) Unit) := do
  let total := batch.images.length
  match ← copyImages s destination options batch total 1 batch.images with
  | .error e => return .error e
  | .ok () =>
    Work.log (.withValues .info "Descriptor synced" [("count", toString total)])
    return .ok ()

/-- Copies the images of batches, one batch after the other. -/
def executeBatches (s : Services σ) (destination : String) (options : RunOptions) :
    List Batch → Work σ (Except (Halt SyncError) Unit)
  | [] => return .ok ()
  | batch :: rest => do
    match ← batch.execute s destination options with
    | .error e => return .error e
    | .ok () => executeBatches s destination options rest

/-- Copies the images of a plan. -/
def Plan.execute (s : Services σ) (destination : String) (options : RunOptions) (plan : Plan) :
    Work σ (Except (Halt SyncError) Summary) :=
  if areCompatible options.sourceTransport options.destinationTransport then do
    match ← executeBatches s destination options plan.batches with
    | .error e => return .error e
    | .ok () =>
      Work.report (.finished plan.imageCount plan.size)
      return .ok ⟨plan.imageCount, plan.size⟩
  else return .error (.failed .incompatible)

/-- Plans a source. The planning is repeated as a whole. -/
def Services.plan (s : Services σ) (source : String) (options : RunOptions) :
    Work σ (Except (Halt SyncError) Plan) :=
  Work.retrying options.retry "Planning sync"
    (Plan.resolve s options.sourceAccess source options.sourceTransport)

/-- Plans a source and copies the planned images. -/
def Services.run (s : Services σ) (source destination : String) (options : RunOptions) :
    Work σ (Except (Halt SyncError) Summary) :=
  if areCompatible options.sourceTransport options.destinationTransport then do
    match ← s.plan source options with
    | .error e => return .error e
    | .ok plan => plan.execute s destination options
  else return .error (.failed .incompatible)

end ImageSync
