import ImageSync.Registry.Error
import ImageSync.SyncError

/-!
# Retry policies

An operation that failed for a passing reason is tried again, a limited number of times, with a wait
in between. Attempts are counted in 32 bits and the seconds of a growing wait in 64, with arithmetic
that is checked: a number that is too large for its machine type halts the program.

## Main definitions

* `RetryPolicy`: how often and after how long.
* `Machine.sum?`, `Machine.shifted?`: checked arithmetic.
* `RetryPolicy.repetition?`: the numbers that one more attempt needs.
* `Failure`: what has to be known of an error.
* `Halt`: how a repeated operation comes to its end without a result.
-/

namespace ImageSync

/-! ## Checked arithmetic -/

namespace Machine

/-- The sum of two numbers if it fits into 32 bits. -/
def sum? (a b : Nat) : Option Nat := if a + b < UInt32.size then some (a + b) else none

/-- A number shifted to the left, if it fits into 64 bits and the distance is one that a shift can
have. -/
def shifted? (a distance : Nat) : Option Nat :=
  if distance < 64 ∧ a <<< distance < UInt64.size then some (a <<< distance) else none

theorem sum?_eq_some_iff {a b c : Nat} : sum? a b = some c ↔ a + b < UInt32.size ∧ a + b = c := by
  simp [sum?]

theorem sum?_of_le {a b : Nat} (h : UInt32.size ≤ a + b) : sum? a b = none :=
  if_neg (Nat.not_lt.2 h)

theorem shifted?_of_lt {a distance : Nat} (hdistance : distance < 64)
    (h : a <<< distance < UInt64.size) : shifted? a distance = some (a <<< distance) :=
  if_pos ⟨hdistance, h⟩

end Machine

/-! ## Policies -/

/-- How often an operation is tried again, and after how long. -/
structure RetryPolicy where
  /-- The number of attempts behind the first. -/
  retries : UInt32 := 3
  /-- The wait before each of them in milliseconds; without it the waits double. -/
  delay : Option Nat := none
deriving DecidableEq, Repr

/-- What is computed before another attempt. -/
structure Repetition where
  /-- The wait before it in milliseconds. -/
  wait : Nat
  /-- Its number, counted from zero. -/
  next : Nat
  /-- Its number, counted from one. -/
  shown : Nat
  /-- The number of all attempts. -/
  total : Nat
deriving DecidableEq, Repr

namespace RetryPolicy

/-- A single attempt. -/
def once : RetryPolicy := ⟨0, none⟩

/-- The wait after attempt `n`, counted from zero: the fixed one, or 2 s, 4 s, 8 s and so on, which
stops to grow at the seventeenth. -/
def wait? (p : RetryPolicy) (n : Nat) : Option Nat :=
  match p.delay with
  | some delay => some delay
  | none => (Machine.shifted? 2 (min n 16)).map (1000 * ·)

/-- What is computed after attempt `n` has failed; there is nothing if one of the numbers is too
large. -/
def repetition? (p : RetryPolicy) (n : Nat) : Option Repetition := do
  let wait ← p.wait? n
  let next ← Machine.sum? n 1
  let shown ← Machine.sum? next 1
  let total ← Machine.sum? p.retries.toNat 1
  return { wait, next, shown, total }

end RetryPolicy

/-! ## Failures -/

/-- What has to be known of an error to decide about another attempt. -/
class Failure (ε : Type) where
  /-- Its wording. -/
  message : ε → String
  /-- Whether another attempt may help. -/
  isTransient : ε → Bool
  /-- The error of an operation that was broken off. -/
  cancelled : ε

instance : Failure RegistryError where
  message := RegistryError.message
  isTransient := RegistryError.isTransient
  cancelled := .cancelled

instance : Failure CopyError where
  message := CopyError.message
  isTransient := CopyError.isTransient
  cancelled := .cancelled

instance : Failure SyncError where
  message := SyncError.message
  isTransient := SyncError.isTransient
  cancelled := .cancelled

/-- How a repeated operation comes to its end without a result. -/
inductive Halt (ε : Type) where
  /-- It fails with an error. -/
  | failed (e : ε)
  /-- A number of attempts is too large for its machine type, and the program stops. -/
  | overflow
deriving DecidableEq, Repr

namespace Halt

variable {ε ε' : Type}

/-- The same end with another error. -/
def map (f : ε → ε') : Halt ε → Halt ε'
  | failed e => failed (f e)
  | overflow => overflow

end Halt

end ImageSync
