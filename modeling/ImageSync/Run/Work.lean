import ImageSync.Copy.Job
import ImageSync.Event
import ImageSync.Files.Tree

/-!
# Work

A run takes time, changes the file tree and talks to services. It may be broken off at an instant
that is known to the model and not to the program: work that would last beyond this instant is cut.
Instants are milliseconds since the run began.

## Main definitions

* `World σ`: the clock, the file tree, the journal and the state of the services.
* `Work σ α`: a computation in a world that ends with a value or is cut.
* `Work.pause`: lets time pass.
* `Work.note`: writes into the journal.
-/

namespace ImageSync

/-- What the journal of a run records. -/
inductive Happening where
  | event (e : Event)
  | log (line : LogLine)
  /-- The tags of a repository are asked for. -/
  | listing (access : Access) (repository : Reference)
  /-- The place for the copy of an image is made ready. -/
  | preparing (location : String)
  /-- A copy is started. -/
  | attempt (job : CopyJob)
  /-- A copy has succeeded. -/
  | copied (job : CopyJob)
deriving DecidableEq, Repr

/-- Everything that a run can change. -/
structure World (σ : Type) where
  now : Nat
  tree : FileTree
  /-- What happened, with its instant, in order. -/
  journal : List (Nat × Happening)
  /-- The state of the services. -/
  services : σ

/-- A computation in a world that may be cut at an instant: `none` if it was. -/
def Work (σ α : Type) : Type := Option Nat → World σ → Option α × World σ

namespace Work

variable {σ α β : Type}

instance : Monad (Work σ) where
  pure a := fun _ w => (some a, w)
  bind x f := fun cut w =>
    match x cut w with
    | (some a, w) => f a cut w
    | (none, w) => (none, w)

/-- The result and the world after work that may be cut at the given instant. -/
def run (x : Work σ α) (cut : Option Nat) (w : World σ) : Option α × World σ := x cut w

/-- The world as it is. -/
def world : Work σ (World σ) := fun _ w => (some w, w)

/-- Replaces the world. -/
def setWorld (w : World σ) : Work σ Unit := fun _ _ => (some (), w)

/-- Whether the instant of the cut has been reached. -/
def isCut : Work σ Bool := fun cut w => (some (cut.any fun c => decide (c ≤ w.now)), w)

/-- Lets time pass, unless the cut comes first. -/
def pause (duration : Nat) : Work σ Unit := fun cut w =>
  let later := w.now + duration
  match cut with
  | none => (some (), { w with now := later })
  | some c =>
    if duration ≠ 0 ∧ c ≤ later then (none, { w with now := max w.now c })
    else (some (), { w with now := later })

/-- Writes into the journal. -/
def note (h : Happening) : Work σ Unit := fun _ w =>
  (some (), { w with journal := w.journal ++ [(w.now, h)] })

/-- Reports an event. -/
def report (e : Event) : Work σ Unit := note (.event e)

/-- Writes a line into the log. -/
def log (line : LogLine) : Work σ Unit := note (.log line)

/-- Writes several lines into the log. -/
def logAll : List LogLine → Work σ Unit
  | [] => pure ()
  | line :: lines => do
    log line
    logAll lines

/-- Work of which a cut is an outcome like any other. -/
def orCut (x : Work σ α) : Work σ (Option α) := fun cut w =>
  match x cut w with
  | (result, w) => (some result, w)

@[simp] theorem run_pure (a : α) (cut : Option Nat) (w : World σ) :
    (pure a : Work σ α).run cut w = (some a, w) := rfl

theorem run_bind (x : Work σ α) (f : α → Work σ β) (cut : Option Nat) (w : World σ) :
    (x >>= f).run cut w =
      match x.run cut w with
      | (some a, w) => (f a).run cut w
      | (none, w) => (none, w) := rfl

theorem run_bind_of_some {x : Work σ α} {f : α → Work σ β} {cut : Option Nat} {w w' : World σ}
    {a : α} (h : x.run cut w = (some a, w')) : (x >>= f).run cut w = (f a).run cut w' := by
  rw [run_bind, h]

theorem run_bind_of_none {x : Work σ α} {f : α → Work σ β} {cut : Option Nat} {w w' : World σ}
    (h : x.run cut w = (none, w')) : (x >>= f).run cut w = (none, w') := by
  rw [run_bind, h]

@[simp] theorem run_note (h : Happening) (cut : Option Nat) (w : World σ) :
    (note h).run cut w = (some (), { w with journal := w.journal ++ [(w.now, h)] }) := rfl

@[simp] theorem run_pause_none (d : Nat) (w : World σ) :
    (pause d).run none w = (some (), { w with now := w.now + d }) := rfl

@[simp] theorem run_world (cut : Option Nat) (w : World σ) :
    (world : Work σ (World σ)).run cut w = (some w, w) := rfl

@[simp] theorem run_setWorld (w' : World σ) (cut : Option Nat) (w : World σ) :
    (setWorld w').run cut w = (some (), w') := rfl

@[simp] theorem run_isCut_none (w : World σ) :
    (isCut : Work σ Bool).run none w = (some false, w) := rfl

@[simp] theorem run_report (e : Event) (cut : Option Nat) (w : World σ) :
    (report e).run cut w = (some (), { w with journal := w.journal ++ [(w.now, .event e)] }) := rfl

@[simp] theorem run_log (line : LogLine) (cut : Option Nat) (w : World σ) :
    (log line).run cut w = (some (), { w with journal := w.journal ++ [(w.now, .log line)] }) := rfl

theorem run_logAll (lines : List LogLine) (cut : Option Nat) (w : World σ) :
    (logAll lines).run cut w =
      (some (), { w with journal := w.journal ++ lines.map fun line => (w.now, .log line) }) := by
  induction lines generalizing w with
  | nil => simp [logAll]
  | cons line lines ih => simp [logAll, run_bind, ih]

@[simp] theorem run_orCut (x : Work σ α) (cut : Option Nat) (w : World σ) :
    x.orCut.run cut w = (some (x.run cut w).1, (x.run cut w).2) := rfl

end Work

end ImageSync
