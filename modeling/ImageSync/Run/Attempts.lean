import ImageSync.Duration
import ImageSync.Retry
import ImageSync.Run.Work

/-!
# Repeated attempts

Work that failed for a passing reason is done again after a wait. A cut during an attempt makes the
result the error of broken-off work; a cut during a wait makes it the error of the attempt before. If a
number that is needed for another attempt is too large, the program stops before it announces it.

## Main definitions

* `Work.announcement`: the line that announces an attempt.
* `Work.retrying`: the repeated work.
-/

namespace ImageSync.Work

variable {σ ε α : Type}

/-- The line that announces another attempt. -/
def announcement [Failure ε] (what : String) (e : ε) (r : Repetition) : LogLine :=
  ⟨.warn, what ++ " failed: " ++ Failure.message e ++ ". Retrying (attempt " ++ toString r.shown ++
    "/" ++ toString r.total ++ ") after " ++ Duration.text r.wait ++ "..."⟩

/-- One attempt: what the work gives, or nothing if it was cut. -/
def attempt (act : Work σ (Except ε α)) : Work σ (Option (Except ε α)) := do
  if ← isCut then return none
  act.orCut

/-- Waits, and tells whether the wait came to its end. -/
def waited (duration : Nat) : Work σ Bool := do
  if ← isCut then return false
  return (← (pause duration).orCut).isSome

variable [Failure ε]

/-- The attempts from number `n` on, of which `left` may be repeated. -/
def retryingFrom (policy : RetryPolicy) (what : String) (act : Work σ (Except ε α)) :
    (left n : Nat) → Work σ (Except (Halt ε) α)
  | 0, _ => do
    match ← attempt act with
    | none => return .error (.failed Failure.cancelled)
    | some result => return result.mapError .failed
  | left + 1, n => do
    match ← attempt act with
    | none => return .error (.failed Failure.cancelled)
    | some (.ok a) => return .ok a
    | some (.error e) =>
      if !Failure.isTransient e then return .error (.failed e)
      match policy.repetition? n with
      | none => return .error .overflow
      | some r =>
        log (announcement what e r)
        if ← waited r.wait then retryingFrom policy what act left r.next
        else return .error (.failed e)

/-- Work that is done again while it fails for a passing reason and the policy allows it. -/
def retrying (policy : RetryPolicy) (what : String) (act : Work σ (Except ε α)) :
    Work σ (Except (Halt ε) α) :=
  retryingFrom policy what act policy.retries.toNat 0

end ImageSync.Work
