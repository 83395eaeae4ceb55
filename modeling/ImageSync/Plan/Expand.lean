import ImageSync.Catalog.Basic
import ImageSync.Plan.Basic
import ImageSync.Plan.Tags

/-!
# The images of a catalog

Each repository of a catalog gives one batch or, with a reason that is reported, nothing. Trouble
with one repository never affects another.

## Main definitions

* `Expansion.ofImages`: the batch of a repository with tags and digests.
* `Expansion.ofPattern`: the batch of a repository with a pattern.
* `Expansion.ofEntry`: the batches of a registry.
-/

namespace ImageSync.Expansion

variable {σ : Type}

/-- Reports that a repository gives nothing. -/
def skip (registry repository : String) (reason : SkipReason) : Work σ (Option Batch) := do
  Work.report (.repositorySkipped registry repository reason)
  return none

/-- The batch of a repository, unless it has no image. -/
def finish (registry repository : String) (parsed : Reference) (images : List Reference)
    (access : Access) : Work σ (Option Batch) :=
  if images.isEmpty then skip registry repository .nothingFound
  else do
    Work.report (.repositoryPlanned parsed.name images.length)
    return some { images := images.map .inRegistry, access := access }

/-- The image that a catalog means: by its digest if the text is one, else by its tag. -/
def declared (repository : Reference) (text : String) : Except ReferenceError Reference :=
  match Digest.parse text with
  | .ok d => .ok (repository.withDigest d)
  | .error _ => repository.withTag text

/-- The images that a catalog lists for a repository; malformed ones are reported and left out. -/
def declaredAll (registry repository : String) (parsed : Reference) :
    List String → Work σ (List Reference)
  | [] => return []
  | text :: texts =>
    match declared parsed text with
    | .ok r => do
      let rs ← declaredAll registry repository parsed texts
      return r :: rs
    | .error e => do
      Work.report (.refSkipped registry repository text e.message)
      declaredAll registry repository parsed texts

/-- The batch of a repository with tags and digests; without any, all its tags are meant. -/
def ofImages (s : Services σ) (registry : String) (access : Access) (repository : String)
    (texts : List String) : Work σ (Option Batch) :=
  match Reference.parseRepository (registry ++ "/" ++ repository) with
  | .error e => skip registry repository (.badName e.message)
  | .ok parsed =>
    if texts.isEmpty then do
      match ← listImages s access parsed with
      | .error e => skip registry repository (.listingFailed e.message)
      | .ok images => finish registry repository parsed images access
    else do
      let images ← declaredAll registry repository parsed texts
      finish registry repository parsed images access

/-- Whether a matcher accepts the tag of an image. -/
def hasTag (accepts : Matcher) (r : Reference) : Bool := r.tag.any accepts

/-- The batch of a repository with a pattern: the images whose tags it matches. -/
def ofPattern (s : Services σ) (registry : String) (access : Access) (repository : String)
    (pattern : String) : Work σ (Option Batch) :=
  match Reference.parseRepository (registry ++ "/" ++ repository) with
  | .error e => skip registry repository (.badName e.message)
  | .ok parsed =>
    match s.pattern pattern with
    | .error e => skip registry repository (.badPattern e)
    | .ok accepts => do
      match ← listImages s access parsed with
      | .error e => skip registry repository (.listingFailed e.message)
      | .ok images => do
        Work.report (.filteringTags parsed.name pattern)
        finish registry repository parsed (images.filter (hasTag accepts)) access

/-- The batches of repositories, one after the other. -/
def collect {α : Type} (batchOf : String → α → Work σ (Option Batch)) :
    List (String × α) → Work σ (List Batch)
  | [] => return []
  | (repository, value) :: rest => do
    let first ← batchOf repository value
    let others ← collect batchOf rest
    return first.toList ++ others

/-- The batches of a registry: first the repositories with tags and digests, then those with
patterns. -/
def ofEntry (s : Services σ) (base : Access) (registry : String) (entry : RegistryEntry) :
    Work σ (List Batch) := do
  let access := base.forEntry entry
  let listed ← collect (ofImages s registry access) entry.images
  let matched ← collect (ofPattern s registry access) entry.patterns
  return listed ++ matched

/-- The plan of the entries of a catalog, added to what is planned already. -/
def ofEntries (s : Services σ) (base : Access) (plan : Plan) :
    List (String × RegistryEntry) → Work σ Plan
  | [] => return plan
  | (registry, entry) :: rest => do
    if entry.namesNothing then
      Work.report (.registrySkipped registry)
      ofEntries s base plan rest
    else
      let batches ← ofEntry s base registry entry
      ofEntries s base (plan.addAll batches) rest

end ImageSync.Expansion
