import ImageSync.Copy.Error
import ImageSync.Registry.Error
import ImageSync.Run.Work

/-!
# Services

What a run needs of the world outside: somebody who lists the tags of a repository, somebody who
copies an image, and a reader of patterns. Each is a function of its own state, so a run is a
function too.

## Main definitions

* `Services`: the services.
* `Services.list`, `Services.copyImage`: their use as work.
-/

namespace ImageSync

/-- What a service answers, after how many milliseconds, and what it writes into the log. -/
structure Reply (ε α : Type) where
  result : Except ε α
  takes : Nat := 0
  notes : List LogLine := []

/-- A pattern that was read: which texts it matches. -/
abbrev Matcher := String → Bool

/-- The services that a run needs. -/
structure Services (σ : Type) where
  /-- Lists the tags of a repository. -/
  listTags : FileTree → Access → Reference → σ → Reply RegistryError (List String) × σ
  /-- Copies an image. -/
  copy : CopyJob → FileTree → σ → Reply CopyError Unit × FileTree × σ
  /-- Reads a pattern, or says what is wrong with it. -/
  pattern : String → Except String Matcher

namespace Services

variable {σ : Type}

/-- The tags of a repository. -/
def list (s : Services σ) (access : Access) (repository : Reference) :
    Work σ (Except RegistryError (List String)) := do
  Work.note (.listing access repository)
  let w ← Work.world
  let (reply, services) := s.listTags w.tree access repository w.services
  Work.setWorld { w with services := services }
  Work.logAll reply.notes
  Work.pause reply.takes
  return reply.result

/-- Copies an image. The file tree changes when the copy has come to its end. -/
def copyImage (s : Services σ) (job : CopyJob) : Work σ (Except CopyError Unit) := do
  Work.note (.attempt job)
  let w ← Work.world
  let (reply, tree, services) := s.copy job w.tree w.services
  Work.setWorld { w with services := services }
  Work.logAll reply.notes
  Work.pause reply.takes
  let w ← Work.world
  Work.setWorld { w with tree := tree }
  if reply.result.isOk then Work.note (.copied job)
  return reply.result

end Services

end ImageSync
