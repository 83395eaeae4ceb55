import Mathlib.Algebra.Group.Nat.Defs
import ImageSync.Run.Attempts

/-!
# One attempt and what follows it

Repeated work goes one attempt at a time. Its last attempt decides: no other is allowed, or none is
worth it. Behind any other attempt the numbers of the next one are computed. If they fit into their
machine types, then comes an announcement and then a wait, and it depends on the wait whether the next
attempt is made; else there is an overflow.

## Main definitions

* `RetryPolicy.repetition`: the numbers of one more attempt as natural numbers.
* `Work.isPassing`: whether an attempt with an outcome is worth another one.
* `Work.announced`: the world in which another attempt has been announced.

## Main statements

* `RetryPolicy.repetition?_cases`: checked arithmetic gives these numbers or none.
* `RetryPolicy.repetition?_eq`, `RetryPolicy.repetition?_of_max`: which of the two it is.
* `Work.exists_run_attempt`, `Work.exists_run_waited`: attempts and waits come to an end with every cut.
* `Work.run_retryingFrom_last`, `Work.run_retryingFrom_cut`, `Work.run_retryingFrom_failed`,
  `Work.run_retryingFrom_overflow`: what follows an attempt.
-/

namespace ImageSync

/-! ## The numbers of one more attempt -/

namespace RetryPolicy

/-- The wait after attempt `n`: the fixed one, or two seconds that double until they stop to grow. -/
def wait (p : RetryPolicy) (n : Nat) : Nat := p.delay.getD (1000 * 2 ^ (min n 16 + 1))

/-- What is to be computed after attempt `n` has failed. -/
def repetition (p : RetryPolicy) (n : Nat) : Repetition where
  wait := p.wait n
  next := n + 1
  shown := n + 2
  total := p.retries.toNat + 1

variable {p : RetryPolicy} {n : Nat}

/-- No wait is too long for its machine number, whatever the attempt. -/
theorem wait?_eq (p : RetryPolicy) (n : Nat) : p.wait? n = some (p.wait n) := by
  rw [wait?, wait]
  cases p.delay with
  | some delay => rfl
  | none =>
      have hdouble : 2 <<< min n 16 = 2 ^ (min n 16 + 1) := by
        rw [Nat.shiftLeft_eq, Nat.pow_succ, Nat.mul_comm]
      have hpow : 2 ^ (min n 16 + 1) ≤ 2 ^ 17 := Nat.pow_le_pow_right (by decide) (by omega)
      dsimp only
      rw [Machine.shifted?_of_lt (by omega) (by rw [hdouble, UInt64.size]; omega), hdouble]
      rfl

/-- Checked arithmetic gives the right numbers or none. -/
theorem repetition?_cases (p : RetryPolicy) (n : Nat) :
    p.repetition? n = none ∨ p.repetition? n = some (p.repetition n) := by
  cases h : p.repetition? n with
  | none => exact .inl rfl
  | some r =>
      simp only [repetition?, wait?_eq, Option.bind_eq_bind, Option.bind_eq_some_iff, Option.some_inj,
        Option.pure_def, Machine.sum?_eq_some_iff] at h
      obtain ⟨wait, rfl, next, ⟨-, rfl⟩, shown, ⟨-, rfl⟩, total, ⟨-, rfl⟩, rfl⟩ := h
      exact .inr rfl

/-- If there are fewer retries than 32 bits can count, no number is too large. -/
theorem repetition?_eq (hmax : p.retries.toNat < UInt32.size - 1) (h : n < p.retries.toNat) :
    p.repetition? n = some (p.repetition n) := by
  have hnext : Machine.sum? n 1 = some (n + 1) := Machine.sum?_eq_some_iff.2 ⟨by omega, rfl⟩
  have hshown : Machine.sum? (n + 1) 1 = some (n + 2) := Machine.sum?_eq_some_iff.2 ⟨by omega, rfl⟩
  have htotal : Machine.sum? p.retries.toNat 1 = some (p.retries.toNat + 1) :=
    Machine.sum?_eq_some_iff.2 ⟨by omega, rfl⟩
  simp [repetition?, wait?_eq, hnext, hshown, htotal, repetition]

/-- The largest number of retries has no successor. -/
theorem repetition?_of_max (hmax : p.retries.toNat = UInt32.size - 1) : p.repetition? n = none := by
  have htotal : Machine.sum? p.retries.toNat 1 = none := Machine.sum?_of_le (by omega)
  simp [repetition?, htotal]

/-- The largest number of retries allows one. -/
theorem retries_pos (hmax : p.retries.toNat = UInt32.size - 1) : 0 < p.retries.toNat := by
  rw [hmax]
  decide

/-- There are fewer retries than 32 bits can count, or there are as many. -/
theorem retries_cases (p : RetryPolicy) :
    p.retries.toNat < UInt32.size - 1 ∨ p.retries.toNat = UInt32.size - 1 := by
  have hlt : p.retries.toNat < UInt32.size := p.retries.toNat_lt_size
  omega

end RetryPolicy

namespace Work

variable {σ ε α : Type}

/-! ## Attempts and waits -/

/-- With every cut a wait comes to an end and writes nothing. -/
theorem exists_run_waited (duration : Nat) (cut : Option Nat) (w : World σ) :
    ∃ isOver w', (waited duration : Work σ Bool).run cut w = (some isOver, w') ∧
      w'.journal = w.journal := by
  have hpause : ((pause duration : Work σ Unit).run cut w).2.journal = w.journal := by
    simp only [run, pause]
    cases cut with
    | none => rfl
    | some T =>
        dsimp only
        split <;> rfl
  have hcut : (isCut : Work σ Bool).run cut w = (some (cut.any fun c => decide (c ≤ w.now)), w) :=
    rfl
  rw [waited, run_bind_of_some hcut]
  cases cut.any fun c => decide (c ≤ w.now) with
  | true => exact ⟨false, w, rfl, rfl⟩
  | false =>
      rw [if_neg (by simp), run_bind_of_some (run_orCut (pause duration) cut w)]
      exact ⟨_, _, rfl, hpause⟩

/-- With every cut an attempt comes to an end: the work is done or is not begun. -/
theorem exists_run_attempt (act : Work σ (Except ε α)) (cut : Option Nat) (w : World σ) :
    ∃ r w', (attempt act).run cut w = (some r, w') ∧ (w' = w ∨ w' = (act.run cut w).2) := by
  have hcut : (isCut : Work σ Bool).run cut w = (some (cut.any fun c => decide (c ≤ w.now)), w) :=
    rfl
  rw [attempt, run_bind_of_some hcut]
  cases cut.any fun c => decide (c ≤ w.now) with
  | true => exact ⟨none, w, rfl, .inl rfl⟩
  | false => exact ⟨_, _, rfl, .inr rfl⟩

variable [Failure ε]

/-- Whether an attempt with this outcome is worth another one. -/
def isPassing : Except ε α → Bool
  | .ok _ => false
  | .error e => Failure.isTransient e

/-- The line behind the failed attempt `n`. -/
def retryLine (policy : RetryPolicy) (what : String) (e : ε) (n : Nat) : LogLine :=
  announcement what e (policy.repetition n)

/-- The world in which another attempt has been announced. -/
def announced (policy : RetryPolicy) (what : String) (e : ε) (n : Nat) (w : World σ) : World σ :=
  { w with journal := w.journal ++ [(w.now, .log (retryLine policy what e n))] }

variable {policy : RetryPolicy} {what : String} {act : Work σ (Except ε α)} {w w₁ w₂ : World σ}
  {cut : Option Nat} {left n : Nat} {e : ε} {r : Except ε α} {isOver : Bool}

theorem eq_error_of_isPassing (h : isPassing r = true) :
    ∃ e, r = .error e ∧ Failure.isTransient e = true := by
  cases r with
  | ok a => cases h
  | error e => exact ⟨e, rfl, h⟩

/-! ## What follows an attempt -/

/-- An attempt that was cut is the last one. -/
theorem run_retryingFrom_cut (hattempt : (attempt act).run cut w = (some none, w₁)) :
    (retryingFrom policy what act left n).run cut w =
      (some (.error (.failed Failure.cancelled)), w₁) := by
  cases left <;> rw [retryingFrom, run_bind_of_some hattempt] <;> rfl

/-- The last attempt decides: no other is allowed, or none is worth it. -/
theorem run_retryingFrom_last (hattempt : (attempt act).run cut w = (some (some r), w₁))
    (hlast : left = 0 ∨ isPassing r = false) :
    (retryingFrom policy what act left n).run cut w = (some (r.mapError .failed), w₁) := by
  cases left with
  | zero =>
      rw [retryingFrom, run_bind_of_some hattempt]
      rfl
  | succ left =>
      have hr : isPassing r = false := hlast.resolve_left (by simp)
      rw [retryingFrom, run_bind_of_some hattempt]
      cases r with
      | ok a => rfl
      | error e =>
          have he : Failure.isTransient e = false := hr
          simp only [he, Bool.not_false, if_true]
          rfl

/-- Behind a failure that may pass and its announcement the wait decides about the next attempt. -/
theorem run_retryingFrom_failed (hattempt : (attempt act).run cut w = (some (some (.error e)), w₁))
    (htransient : Failure.isTransient e = true)
    (hnumbers : policy.repetition? n = some (policy.repetition n))
    (hwaited : (waited (policy.wait n)).run cut (announced policy what e n w₁) = (some isOver, w₂)) :
    (retryingFrom policy what act (left + 1) n).run cut w =
      if isOver then (retryingFrom policy what act left (n + 1)).run cut w₂
      else (some (.error (.failed e)), w₂) := by
  rw [retryingFrom, run_bind_of_some hattempt]
  simp only [htransient, Bool.not_true, Bool.false_eq_true, if_false, hnumbers]
  have hlog : (log (announcement what e (policy.repetition n))).run cut w₁ =
    (some (), announced policy what e n w₁) := rfl
  have hwaited : (waited (policy.repetition n).wait).run cut (announced policy what e n w₁) =
    (some isOver, w₂) := hwaited
  rw [run_bind_of_some hlog, run_bind_of_some hwaited]
  cases isOver <;> rfl

/-- Where a number is too large, a failure that may pass is the end. -/
theorem run_retryingFrom_overflow (hattempt : (attempt act).run cut w = (some (some (.error e)), w₁))
    (htransient : Failure.isTransient e = true) (hnumbers : policy.repetition? n = none) :
    (retryingFrom policy what act (left + 1) n).run cut w = (some (.error .overflow), w₁) := by
  rw [retryingFrom, run_bind_of_some hattempt]
  simp only [htransient, Bool.not_true, Bool.false_eq_true, if_false, hnumbers]
  rfl

end Work

end ImageSync
