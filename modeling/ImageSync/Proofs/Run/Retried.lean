import ImageSync.Proofs.Run.Cut
import ImageSync.Proofs.Run.Uncut
import Mathlib.Algebra.Group.Nat.Defs

/-!
# Attempts in their order

Repeated work goes from attempt to attempt: each one but the last fails for a passing reason, and the
next one begins when the wait behind it is over. So the attempts and the instants at which they begin
are known from what each attempt gives and how long it takes. A cut ends them where it falls, and
changes nothing before. With the largest number of retries there is no second attempt: the number of
all attempts that is to be announced with it overflows.

## Main definitions

* `RetryPolicy.start`, `RetryPolicy.stop`: when each attempt begins and ends.
* `Work.IsLast`, `Work.Ends`: the attempt with which repeated work ends, and its result.
* `Work.trial`: an operation of which every attempt goes as a script says, and which records them.
* `Trials`: its record.
* `Course`: repeated work whose attempts go as a script says.

## Main statements

* `Work.run_retryingFrom_next`: repeated work that comes to its next attempt.
* `Course.run_as_scripted`: the attempts, their instants and the result, without a cut and with any.
* `Course.run_overflows`: an operation that would have succeeded at its second attempt.
-/

namespace ImageSync

/-! ## Instants -/

namespace RetryPolicy

variable (policy : RetryPolicy) (takes : Nat → Nat) (now : Nat)

/-- When attempt `i` begins, where attempt `j` lasts `takes j` and the first begins at `now`. -/
def start : Nat → Nat
  | 0 => now
  | i + 1 => start i + takes i + policy.wait i

/-- When attempt `i` ends. -/
def stop (i : Nat) : Nat := policy.start takes now i + takes i

theorem start_succ (i : Nat) :
    policy.start takes now (i + 1) = policy.stop takes now i + policy.wait i := rfl

theorem start_le_stop (i : Nat) : policy.start takes now i ≤ policy.stop takes now i :=
  Nat.le_add_right _ _

theorem stop_le_start_succ (i : Nat) : policy.stop takes now i ≤ policy.start takes now (i + 1) :=
  Nat.le_add_right _ _

theorem start_mono {i j : Nat} (h : i ≤ j) : policy.start takes now i ≤ policy.start takes now j := by
  induction h with
  | refl => exact Nat.le_refl _
  | step _ ih =>
      exact Nat.le_trans ih
        (Nat.le_trans (policy.start_le_stop takes now _) (policy.stop_le_start_succ takes now _))

/-- An attempt ends before any later one begins. -/
theorem stop_le_start {i j : Nat} (h : i < j) : policy.stop takes now i ≤ policy.start takes now j :=
  Nat.le_trans (policy.stop_le_start_succ takes now i) (policy.start_mono takes now h)

theorem stop_mono {i j : Nat} (h : i ≤ j) : policy.stop takes now i ≤ policy.stop takes now j := by
  rcases Nat.eq_or_lt_of_le h with rfl | h
  · exact Nat.le_refl _
  · exact Nat.le_trans (policy.stop_le_start takes now h) (policy.start_le_stop takes now j)

/-- An instant lies before the first attempt, in one of the attempts up to number `n`, in a wait
before attempt `n`, or behind the end of that attempt. -/
theorem instant_cases (n T : Nat) :
    T ≤ now ∨ (∃ i ≤ n, policy.start takes now i < T ∧ T ≤ policy.stop takes now i) ∨
      (∃ i < n, policy.stop takes now i < T ∧ T ≤ policy.start takes now (i + 1)) ∨
      policy.stop takes now n < T := by
  induction n with
  | zero =>
      have hstart : policy.start takes now 0 = now := rfl
      by_cases hbefore : T ≤ now
      · exact .inl hbefore
      · by_cases hin : T ≤ policy.stop takes now 0
        · exact .inr (.inl ⟨0, Nat.le_refl 0, by omega, hin⟩)
        · exact .inr (.inr (.inr (Nat.lt_of_not_le hin)))
  | succ n ih =>
      rcases ih with hbefore | ⟨i, hi, hattempt⟩ | ⟨i, hi, hwait⟩ | hbehind
      · exact .inl hbefore
      · exact .inr (.inl ⟨i, Nat.le_succ_of_le hi, hattempt⟩)
      · exact .inr (.inr (.inl ⟨i, Nat.lt_succ_of_lt hi, hwait⟩))
      · by_cases hwait : T ≤ policy.start takes now (n + 1)
        · exact .inr (.inr (.inl ⟨n, Nat.lt_succ_self n, hbehind, hwait⟩))
        · by_cases hin : T ≤ policy.stop takes now (n + 1)
          · exact .inr (.inl ⟨n + 1, Nat.le_refl _, Nat.lt_of_not_le hwait, hin⟩)
          · exact .inr (.inr (.inr (Nat.lt_of_not_le hin)))

end RetryPolicy

namespace Work

variable {σ ε α : Type} [Failure ε]

/-! ## From attempt to attempt -/

/-- Attempt `n` is the last one: those before it fail for passing reasons, and it does not or the
policy allows no more. -/
structure IsLast (policy : RetryPolicy) (outcomes : Nat → Except ε α) (n : Nat) : Prop where
  le : n ≤ policy.retries.toNat
  before : ∀ i < n, isPassing (outcomes i) = true
  last : n = policy.retries.toNat ∨ isPassing (outcomes n) = false

/-- There is a last attempt. -/
theorem exists_isLast (policy : RetryPolicy) (outcomes : Nat → Except ε α) :
    ∃ n, IsLast policy outcomes n := by
  have hfirst : ∀ limit, ∃ n ≤ limit, (∀ i < n, isPassing (outcomes i) = true) ∧
      (n = limit ∨ isPassing (outcomes n) = false) := by
    intro limit
    induction limit with
    | zero => exact ⟨0, Nat.le_refl 0, by simp, .inl rfl⟩
    | succ limit ih =>
        obtain ⟨n, hle, hbefore, rfl | hlast⟩ := ih
        · cases hn : isPassing (outcomes n) with
          | true => exact ⟨n + 1, Nat.le_refl _, Nat.forall_lt_succ_right.2 ⟨hbefore, hn⟩, .inl rfl⟩
          | false => exact ⟨n, Nat.le_succ n, hbefore, .inr hn⟩
        · exact ⟨n, Nat.le_succ_of_le hle, hbefore, .inr hlast⟩
  obtain ⟨n, hle, hbefore, hlast⟩ := hfirst policy.retries.toNat
  exact ⟨n, hle, hbefore, hlast⟩

/-- How repeated work ends: with attempt `n`, which is the last one, or with the first, behind which
another would have come if it could be counted. -/
inductive Ends (policy : RetryPolicy) (outcomes : Nat → Except ε α) : Nat → Except (Halt ε) α → Prop
  | last {n : Nat} (h : IsLast policy outcomes n)
      (hcounted : n = 0 ∨ policy.retries.toNat < UInt32.size - 1) :
      Ends policy outcomes n ((outcomes n).mapError .failed)
  | overflow (hmax : policy.retries.toNat = UInt32.size - 1) (h : isPassing (outcomes 0) = true) :
      Ends policy outcomes 0 (.error .overflow)

/-- Repeated work ends. -/
theorem exists_ends (policy : RetryPolicy) (outcomes : Nat → Except ε α) :
    ∃ n result, Ends policy outcomes n result := by
  obtain ⟨n, hn⟩ := exists_isLast policy outcomes
  by_cases hzero : n = 0
  · exact ⟨n, _, .last hn (.inl hzero)⟩
  · rcases policy.retries_cases with hlt | hmax
    · exact ⟨n, _, .last hn (.inr hlt)⟩
    · exact ⟨0, _, .overflow hmax (hn.before 0 (Nat.pos_of_ne_zero hzero))⟩

namespace Ends

variable {policy : RetryPolicy} {outcomes : Nat → Except ε α} {n : Nat} {result : Except (Halt ε) α}

theorem le (h : Ends policy outcomes n result) : n ≤ policy.retries.toNat := by
  cases h with
  | last h => exact h.le
  | overflow => exact Nat.zero_le _

/-- The attempts before it fail for passing reasons. -/
theorem before (h : Ends policy outcomes n result) : ∀ i < n, isPassing (outcomes i) = true := by
  cases h with
  | last h => exact h.before
  | overflow => simp

/-- The attempts behind those are counted. -/
theorem counted (h : Ends policy outcomes n result) :
    ∀ i < n, policy.repetition? i = some (policy.repetition i) := by
  intro i hi
  cases h with
  | last h hcounted =>
      have hlt : policy.retries.toNat < UInt32.size - 1 := hcounted.resolve_left (by omega)
      exact RetryPolicy.repetition?_eq hlt (Nat.lt_of_lt_of_le hi h.le)
  | overflow => exact absurd hi (Nat.not_lt_zero i)

end Ends

variable {policy : RetryPolicy} {what : String} {act : Work σ (Except ε α)} {w w' : World σ}
  {cut : Option Nat} {T left n : Nat} {e : ε} {r : Except ε α}

/-- With its attempt `n` repeated work ends. -/
theorem Ends.run_retryingFrom {outcomes : Nat → Except ε α} {result : Except (Halt ε) α}
    (h : Ends policy outcomes n result) (hleft : policy.retries.toNat = n + left)
    (hattempt : (attempt act).run cut w = (some (some (outcomes n)), w')) :
    (retryingFrom policy what act left n).run cut w = (some result, w') := by
  cases h with
  | last h => exact run_retryingFrom_last hattempt (h.last.imp_left fun hn => by omega)
  | overflow hmax hpassing =>
      obtain ⟨e, he, htransient⟩ := eq_error_of_isPassing hpassing
      have hpos := RetryPolicy.retries_pos hmax
      obtain ⟨more, rfl⟩ : ∃ more, left = more + 1 := ⟨left - 1, by omega⟩
      rw [he] at hattempt
      exact run_retryingFrom_overflow hattempt htransient (RetryPolicy.repetition?_of_max hmax)

omit [Failure ε] in
theorem run_pause_of_cut {duration : Nat} (hT : w.now < T) (hle : T ≤ w.now + duration) :
    (pause duration : Work σ Unit).run (some T) w = (none, { w with now := T }) := by
  have hin : duration ≠ 0 ∧ T ≤ w.now + duration := by omega
  have hnow : max w.now T = T := Nat.max_eq_right (Nat.le_of_lt hT)
  simp only [run, pause, if_pos hin, hnow]

omit [Failure ε] in
/-- A wait that is cut is told from one that comes to its end. -/
theorem run_waited_of_cut {duration : Nat} (hT : w.now < T) (hle : T ≤ w.now + duration) :
    (waited duration : Work σ Bool).run (some T) w = (some false, { w with now := T }) := by
  have hgo : (isCut : Work σ Bool).run (some T) w = (some false, w) :=
    (breaks_isCut (P := fun _ => True) w).run_some hT
  rw [waited, run_bind_of_some hgo]
  simp [run_bind, run_pause_of_cut hT hle]

omit [Failure ε] in
/-- An attempt that is not cut gives what the work gives. -/
theorem run_attempt_of_some (hcut : ∀ T ∈ cut, w.now < T) (h : act.run cut w = (some r, w')) :
    (attempt act).run cut w = (some (some r), w') := by
  have hgo : (isCut : Work σ Bool).run cut w = (some false, w) :=
    (breaks_isCut (P := fun _ => True) w).run_eq cut hcut
  rw [attempt, run_bind_of_some hgo]
  simp [h]

omit [Failure ε] in
/-- An attempt that is cut gives nothing. -/
theorem run_attempt_of_none (hT : w.now < T) (h : act.run (some T) w = (none, w')) :
    (attempt act).run (some T) w = (some none, w') := by
  have hgo : (isCut : Work σ Bool).run (some T) w = (some false, w) :=
    (breaks_isCut (P := fun _ => True) w).run_some hT
  rw [attempt, run_bind_of_some hgo]
  simp [h]

/-- Work that fails for a passing reason comes to its next attempt when the wait is over. -/
theorem run_retryingFrom_next (hattempt : (attempt act).run cut w = (some (some (.error e)), w'))
    (hpassing : Failure.isTransient e = true)
    (hcounted : policy.repetition? n = some (policy.repetition n))
    (hcut : ∀ T ∈ cut, w'.now + policy.wait n < T) :
    (retryingFrom policy what act (left + 1) n).run cut w =
      (retryingFrom policy what act left (n + 1)).run cut (afterWait policy what e n w') := by
  have hwaited := (lasts_waited (P := fun _ => True) (policy.wait n)
    (announced policy what e n w')).run_eq cut hcut
  rw [run_retryingFrom_failed hattempt hpassing hcounted hwaited, if_pos rfl]
  rfl

/-- A cut during the wait leads to the error of the attempt before it. -/
theorem run_retryingFrom_waiting
    (hattempt : (attempt act).run (some T) w = (some (some (.error e)), w'))
    (hpassing : Failure.isTransient e = true)
    (hcounted : policy.repetition? n = some (policy.repetition n)) (hT : w'.now < T)
    (hwait : T ≤ w'.now + policy.wait n) :
    (retryingFrom policy what act (left + 1) n).run (some T) w =
      (some (.error (.failed e)), { w' with
        now := T, journal := w'.journal ++ [(w'.now, .log (retryLine policy what e n))] }) := by
  have hwaited := run_waited_of_cut (w := announced policy what e n w') hT hwait
  rw [run_retryingFrom_failed hattempt hpassing hcounted hwaited, if_neg (by simp)]
  rfl

end Work

/-! ## Attempts that go as a script says -/

/-- What is recorded of attempts: when they began, and when they ended with what outcome. -/
structure Trials (ε α : Type) where
  begun : List Nat := []
  ended : List (Nat × Except ε α) := []

/-- What of a record was there before an instant. -/
def Trials.before {ε α : Type} (trials : Trials ε α) (T : Nat) : Trials ε α where
  begun := trials.begun.filter fun instant => instant < T
  ended := trials.ended.filter fun p => p.1 < T

/-- An operation whose attempt number `i` lasts `takes i` and gives `outcomes i`. It records when its
attempts begin and how they end; an attempt that is cut does not end. -/
def Work.trial {ε α : Type} (outcomes : Nat → Except ε α) (takes : Nat → Nat) :
    Work (Trials ε α) (Except ε α) := do
  let w ← world
  let i := w.services.begun.length
  setWorld { w with services := { w.services with begun := w.services.begun ++ [w.now] } }
  pause (takes i)
  let w ← world
  setWorld { w with services := { w.services with ended := w.services.ended ++ [(w.now, outcomes i)] } }
  return outcomes i

/-- Repeated work whose attempts go as a script says, and the world in which it begins. -/
structure Course (ε α : Type) where
  policy : RetryPolicy
  /-- The name of the work. -/
  what : String
  outcomes : Nat → Except ε α
  takes : Nat → Nat
  now : Nat
  tree : FileTree
  journal : List (Nat × Happening)

namespace Course

variable {ε α : Type}

/-- When attempt `i` begins. -/
abbrev start (c : Course ε α) (i : Nat) : Nat := c.policy.start c.takes c.now i

/-- When attempt `i` ends. -/
abbrev stop (c : Course ε α) (i : Nat) : Nat := c.policy.stop c.takes c.now i

/-- The record of the first `n` attempts. -/
def record (c : Course ε α) (n : Nat) : Trials ε α where
  begun := (List.range n).map c.start
  ended := (List.range n).map fun i => (c.stop i, c.outcomes i)

variable [Failure ε]

/-- The work. -/
def work (c : Course ε α) : Work (Trials ε α) (Except (Halt ε) α) :=
  .retrying c.policy c.what (.trial c.outcomes c.takes)

/-- The error with which attempt `i` fails. -/
def error (c : Course ε α) (i : Nat) : ε :=
  match c.outcomes i with
  | .error e => e
  | .ok _ => Failure.cancelled

/-- The announcements of the first `n` attempts behind the first one. -/
def announcements (c : Course ε α) (n : Nat) : List (Nat × Happening) :=
  (List.range n).map fun i => (c.stop i, .log (Work.retryLine c.policy c.what (c.error i) i))

/-- The world in which attempt `n` begins. -/
def before (c : Course ε α) (n : Nat) : World (Trials ε α) where
  now := c.start n
  tree := c.tree
  journal := c.journal ++ c.announcements n
  services := c.record n

/-- The world in which attempt `n` has ended. -/
def after (c : Course ε α) (n : Nat) : World (Trials ε α) where
  now := c.stop n
  tree := c.tree
  journal := c.journal ++ c.announcements n
  services := c.record (n + 1)

/-- The world in which attempt `n` has been broken off. -/
def during (c : Course ε α) (n T : Nat) : World (Trials ε α) where
  now := T
  tree := c.tree
  journal := c.journal ++ c.announcements n
  services := { begun := (c.record (n + 1)).begun, ended := (c.record n).ended }

/-- The world in which the wait behind attempt `n` has been broken off. -/
def waiting (c : Course ε α) (n T : Nat) : World (Trials ε α) where
  now := T
  tree := c.tree
  journal := c.journal ++ c.announcements (n + 1)
  services := c.record (n + 1)

variable {c : Course ε α} {n left T : Nat} {cut : Option Nat}

theorem error_of_isPassing {i : Nat} (h : Work.isPassing (c.outcomes i) = true) :
    c.outcomes i = .error (c.error i) ∧ Failure.isTransient (c.error i) = true := by
  unfold error
  cases houtcome : c.outcomes i with
  | ok a => simp [houtcome, Work.isPassing] at h
  | error e => exact ⟨rfl, by simpa [houtcome, Work.isPassing] using h⟩

omit [Failure ε] in
theorem start_lt_of_stop_lt {i : Nat} (h : c.stop i < T) : c.start i < T :=
  Nat.lt_of_le_of_lt (c.policy.start_le_stop c.takes c.now i) h

omit [Failure ε] in
theorem stop_lt_of_start_succ_lt {i : Nat} (h : c.start (i + 1) < T) : c.stop i < T :=
  Nat.lt_of_le_of_lt (c.policy.stop_le_start_succ c.takes c.now i) h

theorem before_zero : c.before 0 = ⟨c.now, c.tree, c.journal, {}⟩ := by
  simp [before, announcements, record, start, RetryPolicy.start]

theorem afterWait_after :
    Work.afterWait c.policy c.what (c.error n) n (c.after n) = c.before (n + 1) := by
  simp [Work.afterWait, after, before, announcements, start, RetryPolicy.start_succ, List.range_succ]

theorem length_begun_before : (c.before n).services.begun.length = n := by
  simp [before, record]

/-! ### One attempt -/

theorem run_attempt (hcut : ∀ T ∈ cut, c.stop n < T) :
    (Work.attempt (.trial c.outcomes c.takes)).run cut (c.before n) =
      (some (some (c.outcomes n)), c.after n) := by
  refine Work.run_attempt_of_some (fun T hT => start_lt_of_stop_lt (hcut T hT)) ?_
  have hpause : ∀ w : World (Trials ε α), w.now = c.start n →
      (Work.pause (c.takes n)).run cut w = (some (), { w with now := w.now + c.takes n }) := by
    intro w hnow
    have hend : ∀ T ∈ cut, w.now + c.takes n < T := by
      rw [hnow]
      exact hcut
    exact (Work.breaks_pause (P := fun _ => True) (c.takes n) w).run_eq cut hend
  rw [Work.trial, Work.run_bind, Work.run_world]
  simp only [Work.run_bind, Work.run_setWorld, Work.run_world, length_begun_before]
  rw [hpause _ rfl]
  simp [after, before, record, List.range_succ, stop, RetryPolicy.stop]

/-- A cut during an attempt leaves it begun and not ended. -/
theorem run_attempt_of_cut (hstart : c.start n < T) (hstop : T ≤ c.stop n) :
    (Work.attempt (.trial c.outcomes c.takes)).run (some T) (c.before n) =
      (some none, c.during n T) := by
  refine Work.run_attempt_of_none hstart ?_
  rw [Work.trial, Work.run_bind, Work.run_world]
  simp only [Work.run_bind, Work.run_setWorld, length_begun_before]
  rw [Work.run_pause_of_cut hstart hstop]
  simp [before, during, record, List.range_succ]

/-! ### Up to an instant -/

/-- What of the first things lies before an instant, if they come in order. -/
theorem filter_map_range {β : Type} {f : Nat → β} {p : β → Bool} {m k : Nat} (hk : k ≤ m)
    (hin : ∀ i < k, p (f i) = true) (hout : ∀ i, k ≤ i → i < m → p (f i) = false) :
    ((List.range m).map f).filter p = (List.range k).map f := by
  obtain ⟨d, rfl⟩ := Nat.exists_eq_add_of_le hk
  have hfirst : ((List.range k).map f).filter p = (List.range k).map f := by
    rw [List.filter_eq_self]
    simpa using hin
  have hrest : (((List.range d).map fun x => k + x).map f).filter p = [] := by
    rw [List.filter_eq_nil_iff]
    simpa using fun i hi => hout (k + i) (Nat.le_add_right k i) (Nat.add_lt_add_left hi k)
  rw [List.range_add, List.map_append, List.filter_append, hfirst, hrest, List.append_nil]

omit [Failure ε] in
/-- A record up to an instant: `b` attempts have begun and `k` have ended. -/
theorem before_record {b k : Nat} (hb : b ≤ n) (hk : k ≤ n) (hbegun : ∀ i < b, c.start i < T)
    (hnext : b < n → T ≤ c.start b) (hended : ∀ i < k, c.stop i < T)
    (hlater : k < n → T ≤ c.stop k) :
    (c.record n).before T = { begun := (c.record b).begun, ended := (c.record k).ended } := by
  have hstart : ∀ i, b ≤ i → i < n → T ≤ c.start i := fun i hi hin =>
    Nat.le_trans (hnext (Nat.lt_of_le_of_lt hi hin)) (c.policy.start_mono c.takes c.now hi)
  have hstop : ∀ i, k ≤ i → i < n → T ≤ c.stop i := fun i hi hin =>
    Nat.le_trans (hlater (Nat.lt_of_le_of_lt hi hin)) (c.policy.stop_mono c.takes c.now hi)
  rw [Trials.before, record, filter_map_range hb (by simpa using hbegun) (by simpa using hstart),
    filter_map_range hk (by simpa using hended) (by simpa using hstop)]
  rfl

theorem filter_announcements {k : Nat} (hk : k ≤ n) (hended : ∀ i < k, c.stop i < T)
    (hlater : k < n → T ≤ c.stop k) :
    ((c.announcements n).filter fun h => h.1 < T) = c.announcements k := by
  have hstop : ∀ i, k ≤ i → i < n → T ≤ c.stop i := fun i hi hin =>
    Nat.le_trans (hlater (Nat.lt_of_le_of_lt hi hin)) (c.policy.stop_mono c.takes c.now hi)
  exact filter_map_range hk (by simpa using hended) (by simpa using hstop)

/-! ### All attempts -/

/-- Repeated work that has failed `n` times for a passing reason stands before attempt `n`. -/
theorem run_retryingFrom (hbefore : ∀ i < n, Work.isPassing (c.outcomes i) = true)
    (hcounted : ∀ i < n, c.policy.repetition? i = some (c.policy.repetition i))
    (hcut : ∀ T ∈ cut, c.start n < T) :
    (Work.retryingFrom c.policy c.what (.trial c.outcomes c.takes) (n + left) 0).run cut (c.before 0) =
      (Work.retryingFrom c.policy c.what (.trial c.outcomes c.takes) left n).run cut
        (c.before n) := by
  induction n generalizing left with
  | zero => rw [Nat.zero_add]
  | succ n ih =>
      obtain ⟨herror, hpassing⟩ := error_of_isPassing (hbefore n (Nat.lt_succ_self n))
      have hwait : ∀ T ∈ cut, c.stop n + c.policy.wait n < T := hcut
      have hstop : ∀ T ∈ cut, c.stop n < T := fun T hT => stop_lt_of_start_succ_lt (hcut T hT)
      have hstart : ∀ T ∈ cut, c.start n < T := fun T hT => start_lt_of_stop_lt (hstop T hT)
      have hattempt := run_attempt hstop
      rw [herror] at hattempt
      have hearlier := @ih (left + 1) (fun i hi => hbefore i (Nat.lt_succ_of_lt hi))
        (fun i hi => hcounted i (Nat.lt_succ_of_lt hi)) hstart
      rw [Nat.succ_add_eq_add_succ, hearlier, Work.run_retryingFrom_next hattempt hpassing
        (hcounted n (Nat.lt_succ_self n)) hwait, afterWait_after]

/-- The world holds what has happened of the attempts up to number `n` before an instant. -/
structure HoldsBefore (c : Course ε α) (n T : Nat) (w : World (Trials ε α)) : Prop where
  record : w.services = (c.record (n + 1)).before T
  journal : w.journal = c.journal ++ (c.announcements n).filter fun h => h.1 < T

/-- Before the first attempt nothing has happened. -/
theorem holdsBefore_before_zero (hT : T ≤ c.now) : c.HoldsBefore n T (c.before 0) := by
  have hstop : T ≤ c.stop 0 := Nat.le_trans hT (c.policy.start_le_stop c.takes c.now 0)
  constructor
  case record =>
    rw [before_record (Nat.zero_le _) (Nat.zero_le _) (by simp) (fun _ => hT) (by simp)
      fun _ => hstop]
    rfl
  case journal =>
    rw [filter_announcements (Nat.zero_le n) (by simp) fun _ => hstop]
    rfl

theorem holdsBefore_during {i : Nat} (hi : i ≤ n) (hstart : c.start i < T) (hstop : T ≤ c.stop i) :
    c.HoldsBefore n T (c.during i T) := by
  have hended : ∀ j < i, c.stop j < T := fun j hj =>
    Nat.lt_of_le_of_lt (c.policy.stop_le_start c.takes c.now hj) hstart
  have hbegun : ∀ j < i + 1, c.start j < T := fun j hj =>
    Nat.lt_of_le_of_lt (c.policy.start_mono c.takes c.now (Nat.le_of_lt_succ hj)) hstart
  have hnext : T ≤ c.start (i + 1) :=
    Nat.le_trans hstop (c.policy.stop_le_start_succ c.takes c.now i)
  constructor
  case record =>
    rw [before_record (Nat.succ_le_succ hi) (Nat.le_succ_of_le hi) hbegun (fun _ => hnext) hended
      fun _ => hstop]
    rfl
  case journal =>
    rw [filter_announcements hi hended fun _ => hstop]
    rfl

theorem holdsBefore_waiting {i : Nat} (hi : i < n) (hstop : c.stop i < T)
    (hwait : T ≤ c.start (i + 1)) : c.HoldsBefore n T (c.waiting i T) := by
  have hended : ∀ j < i + 1, c.stop j < T := fun j hj =>
    Nat.lt_of_le_of_lt (c.policy.stop_mono c.takes c.now (Nat.le_of_lt_succ hj)) hstop
  have hbegun : ∀ j < i + 1, c.start j < T := fun j hj => start_lt_of_stop_lt (hended j hj)
  have hlater : T ≤ c.stop (i + 1) :=
    Nat.le_trans hwait (c.policy.start_le_stop c.takes c.now (i + 1))
  have hi' : i + 1 ≤ n + 1 := Nat.succ_le_succ (Nat.le_of_lt hi)
  constructor
  case record =>
    rw [before_record hi' hi' hbegun (fun _ => hwait) hended fun _ => hlater]
    rfl
  case journal =>
    rw [filter_announcements hi hended fun _ => hlater]
    rfl

/-- Behind the end of the last attempt everything has happened. -/
theorem holdsBefore_after (hT : c.stop n < T) : c.HoldsBefore n T (c.after n) := by
  have hended : ∀ j < n + 1, c.stop j < T := fun j hj =>
    Nat.lt_of_le_of_lt (c.policy.stop_mono c.takes c.now (Nat.le_of_lt_succ hj)) hT
  have hbegun : ∀ j < n + 1, c.start j < T := fun j hj => start_lt_of_stop_lt (hended j hj)
  constructor
  case record =>
    rw [before_record (Nat.le_refl _) (Nat.le_refl _) hbegun (fun h => absurd h (Nat.lt_irrefl _))
      hended fun h => absurd h (Nat.lt_irrefl _)]
    rfl
  case journal =>
    rw [filter_announcements (Nat.le_refl n) (fun j hj => hended j (Nat.lt_succ_of_lt hj))
      fun h => absurd h (Nat.lt_irrefl _)]
    rfl

/-- A cut before the first attempt leaves nothing to be done. -/
theorem run_work_of_le (hT : T ≤ c.now) :
    c.work.run (some T) (c.before 0) = (some (.error (.failed Failure.cancelled)), c.before 0) :=
  Work.run_retryingFrom_of_le _ _ _ _ _ hT

section Whole

variable {result : Except (Halt ε) α} (hn : Work.Ends c.policy c.outcomes n result)
include hn

/-- The work stands before any of its attempts that a cut does not forestall. -/
theorem exists_run_work {i : Nat} (hi : i ≤ n) (hcut : ∀ T ∈ cut, c.start i < T) :
    ∃ left, c.policy.retries.toNat = i + left ∧ c.work.run cut (c.before 0) =
      (Work.retryingFrom c.policy c.what (.trial c.outcomes c.takes) left i).run cut
        (c.before i) := by
  obtain ⟨left, hleft⟩ := Nat.exists_eq_add_of_le (Nat.le_trans hi hn.le)
  refine ⟨left, hleft, ?_⟩
  rw [work, Work.retrying, hleft]
  exact run_retryingFrom (fun j hj => hn.before j (Nat.lt_of_lt_of_le hj hi))
    (fun j hj => hn.counted j (Nat.lt_of_lt_of_le hj hi)) hcut

/-- The last attempt gives the result, unless a cut comes before its end. -/
theorem run_work (hcut : ∀ T ∈ cut, c.stop n < T) :
    c.work.run cut (c.before 0) = (some result, c.after n) := by
  have hstart : ∀ T ∈ cut, c.start n < T := fun T hT => start_lt_of_stop_lt (hcut T hT)
  obtain ⟨left, hleft, hrun⟩ := exists_run_work hn (Nat.le_refl n) hstart
  rw [hrun]
  exact hn.run_retryingFrom hleft (run_attempt hcut)

/-- A cut during an attempt breaks the work off. -/
theorem run_work_of_attempt {i : Nat} (hi : i ≤ n) (hstart : c.start i < T) (hstop : T ≤ c.stop i) :
    c.work.run (some T) (c.before 0) =
      (some (.error (.failed Failure.cancelled)), c.during i T) := by
  have hcut : ∀ T' ∈ some T, c.start i < T' := by simpa using hstart
  obtain ⟨left, -, hrun⟩ := exists_run_work hn hi hcut
  rw [hrun]
  exact Work.run_retryingFrom_cut (run_attempt_of_cut hstart hstop)

/-- A cut during a wait ends the work with the error of the attempt before. -/
theorem run_work_of_wait {i : Nat} (hi : i < n) (hstop : c.stop i < T) (hwait : T ≤ c.start (i + 1)) :
    c.work.run (some T) (c.before 0) = (some (.error (.failed (c.error i))), c.waiting i T) := by
  have hcut : ∀ T' ∈ some T, c.stop i < T' := by simpa using hstop
  have hstart : ∀ T' ∈ some T, c.start i < T' := by simpa using start_lt_of_stop_lt hstop
  obtain ⟨left, hleft, hrun⟩ := exists_run_work hn (Nat.le_of_lt hi) hstart
  obtain ⟨left, rfl⟩ : ∃ more, left = more + 1 := ⟨left - 1, by have := hn.le; omega⟩
  obtain ⟨herror, hpassing⟩ := error_of_isPassing (hn.before i hi)
  have hattempt := run_attempt hcut
  rw [herror] at hattempt
  rw [hrun, Work.run_retryingFrom_waiting hattempt hpassing (hn.counted i hi) hstop hwait]
  simp [after, waiting, announcements, List.range_succ]

end Whole

/-- Repeated work whose attempts go as a script says. The attempts before attempt `n`, with which it
ends, are those that fail for a passing reason, as far as the policy allows more. Attempt `n` gives the
result, unless the policy allows the largest number of retries and already the first attempt fails for a
passing reason: then this is the end, with an overflow. Attempt `i + 1` begins `c.policy.wait i` after
the end of attempt `i`, at which it is announced. A cut at `T` changes nothing before `T`, and from `T`
on no attempt begins or ends. The result is the same if the work has ended before. If `T` falls into a
wait it is the error of the attempt before, and else that of broken-off work. -/
theorem run_as_scripted (c : Course ε α) :
    ∃ n result, Work.Ends c.policy c.outcomes n result ∧
      (∀ i, c.stop i = c.start i + c.takes i ∧ c.start (i + 1) = c.stop i + c.policy.wait i ∧
        c.policy.wait i = c.policy.delay.getD (1000 * 2 ^ (min i 16 + 1))) ∧
      c.work.run none ⟨c.now, c.tree, c.journal, {}⟩ =
        (some result, ⟨c.stop n, c.tree, c.journal ++ c.announcements n, c.record (n + 1)⟩) ∧
      ∀ T, ∃ result' w',
        c.work.run (some T) ⟨c.now, c.tree, c.journal, {}⟩ = (some result', w') ∧
        w'.services = (c.record (n + 1)).before T ∧
        w'.journal = c.journal ++ (c.announcements n).filter (fun h => h.1 < T) ∧
        (T ≤ c.now ∧ result' = .error (.failed Failure.cancelled) ∨
          (∃ i ≤ n, c.start i < T ∧ T ≤ c.stop i ∧ result' = .error (.failed Failure.cancelled)) ∨
          (∃ i < n, c.stop i < T ∧ T ≤ c.start (i + 1) ∧ result' = .error (.failed (c.error i))) ∨
          c.stop n < T ∧ result' = result) := by
  obtain ⟨n, result, hn⟩ := Work.exists_ends c.policy c.outcomes
  have hinstants : ∀ i, c.stop i = c.start i + c.takes i ∧
      c.start (i + 1) = c.stop i + c.policy.wait i ∧
      c.policy.wait i = c.policy.delay.getD (1000 * 2 ^ (min i 16 + 1)) := fun i => ⟨rfl, rfl, rfl⟩
  rw [← before_zero]
  refine ⟨n, result, hn, hinstants, run_work hn (by simp), fun T => ?_⟩
  rcases c.policy.instant_cases c.takes c.now n T with
    hT | ⟨i, hi, hstart, hstop⟩ | ⟨i, hi, hstop, hwait⟩ | hT
  · have hbefore : c.HoldsBefore n T (c.before 0) := holdsBefore_before_zero hT
    exact ⟨_, _, run_work_of_le hT, hbefore.record, hbefore.journal, .inl ⟨hT, rfl⟩⟩
  · have hbefore := holdsBefore_during hi hstart hstop
    exact ⟨_, _, run_work_of_attempt hn hi hstart hstop, hbefore.record, hbefore.journal,
      .inr (.inl ⟨i, hi, hstart, hstop, rfl⟩)⟩
  · have hbefore := holdsBefore_waiting hi hstop hwait
    exact ⟨_, _, run_work_of_wait hn hi hstop hwait, hbefore.record, hbefore.journal,
      .inr (.inr (.inl ⟨i, hi, hstop, hwait, rfl⟩))⟩
  · have hcut : ∀ T' ∈ some T, c.stop n < T' := by simpa using hT
    have hbefore := holdsBefore_after hT
    exact ⟨_, _, run_work hn hcut, hbefore.record, hbefore.journal, .inr (.inr (.inr ⟨hT, rfl⟩))⟩

end Course

/-! ## An operation that fails once -/

namespace Work.Faltering

/-- An operation whose first attempt fails for a passing reason. -/
def course (retries : UInt32) : Course CopyError Nat where
  policy := ⟨retries, some 250⟩
  what := "op"
  outcomes := fun
    | 0 => .error (.failed "connection reset" true)
    | i + 1 => .ok (i + 1)
  takes := fun _ => 0
  now := 0
  tree := .empty
  journal := []

theorem isLast_course {retries : UInt32} (h : 0 < retries.toNat) :
    IsLast (course retries).policy (course retries).outcomes 1 where
  le := h
  before := by
    intro i hi
    obtain rfl : i = 0 := by omega
    rfl
  last := .inr rfl

end Work.Faltering

open Work.Faltering in
/-- With the largest number of retries the operation is not attempted a second time, which would have
succeeded: neither another attempt nor an announcement of one is recorded. -/
theorem Course.run_overflows :
    Work.IsLast (course 4294967295).policy (course 4294967295).outcomes 1 ∧
      (course 4294967295).outcomes 1 = .ok 1 ∧
      (course 4294967295).work.run none ⟨0, .empty, [], {}⟩ =
        (some (.error .overflow), ⟨0, .empty, [], (course 4294967295).record 1⟩) ∧
      ((course 4294967295).record 1).begun = [0] := by
  have hends : Work.Ends (course 4294967295).policy (course 4294967295).outcomes 0
    (.error .overflow) := .overflow rfl rfl
  refine ⟨isLast_course (by decide), rfl, ?_, rfl⟩
  rw [show (⟨0, .empty, [], {}⟩ : World (Trials CopyError Nat)) = (course 4294967295).before 0 from
    rfl, Course.run_work hends (by simp)]
  rfl

end ImageSync
