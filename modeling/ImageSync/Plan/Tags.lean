import ImageSync.Run.Services
import ImageSync.SyncError

/-!
# Tags of a repository as references

A registry that refuses to list tags is treated as one that has none.
-/

namespace ImageSync

variable {σ : Type}

/-- The images of the listed tags; the first malformed tag makes it an error. -/
def taggedReferences (repository : Reference) : List String → Work σ (Except SyncError (List Reference))
  | [] => return .ok []
  | tag :: tags =>
    match repository.withTag tag with
    | .error e => do
      Work.log (.withValues .warn "Registry returned an invalid tag"
        [("repo", repository.name), ("tag", tag)])
      return .error (.reference e)
    | .ok r => do
      match ← taggedReferences repository tags with
      | .error e => return .error e
      | .ok rs => return .ok (r :: rs)

/-- The images of a repository by its tags, in the order of the listing. -/
def listImages (s : Services σ) (access : Access) (repository : Reference) :
    Work σ (Except SyncError (List Reference)) := do
  Work.report (.listingTags repository.name)
  match ← s.list access repository with
  | .ok tags => taggedReferences repository tags
  | .error e =>
    if e.isRefusal then do
      Work.report (.listingDenied repository.name e.message)
      return .ok []
    else return .error (.listing repository.name e)

end ImageSync
