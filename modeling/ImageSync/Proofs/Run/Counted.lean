import ImageSync.Proofs.Run.Retried

/-!
# Attempts in machine numbers

Attempts are counted in 32 bits and the seconds of a growing wait in 64. A sum or a shift whose result
the machine number does not hold ends the program. This happens for one number of retries only, the
largest one, whose successor is to be shown as the number of all attempts. In all other cases the
announcements of attempts show the right numbers.

## Main statements

* `Work.continues_retryingFrom`: what repeated work writes into the journal.
* `Work.run_retryingFrom_ne_overflow`: repeated work that is counted to its end.
* `Work.retrying_counts`: no number is too large, and no attempt has a greater number than there are
  attempts.
* `Work.retrying_overflows`: the largest number of retries.
-/

namespace ImageSync.Work

variable {σ ε α : Type} [Failure ε] {policy : RetryPolicy} {what : String}
  {act : Work σ (Except ε α)} {cut : Option Nat}

/-- Repeated work writes what its attempts write and, between them, announcements. -/
theorem continues_retryingFrom {K : Nat × Happening → Prop}
    (hact : ∀ w : World σ, w.Continues (act.run cut w).2 K) (left n : Nat) (w : World σ) :
    w.Continues ((retryingFrom policy what act left n).run cut w).2 fun h =>
      K h ∨ ∃ (e : ε) (i : Nat), Failure.isTransient e = true ∧ n ≤ i ∧ i < n + left ∧
        h.2 = .log (retryLine policy what e i) := by
  have hfirst (w : World σ) : ∃ r w₁, (attempt act).run cut w = (some r, w₁) ∧
      w.Continues w₁ K := by
    obtain ⟨r, w₁, hattempt, rfl | rfl⟩ := exists_run_attempt act cut w
    · exact ⟨r, w₁, hattempt, .of_journal_eq rfl⟩
    · exact ⟨r, _, hattempt, hact w⟩
  induction left generalizing n w with
  | zero =>
      obtain ⟨r, w₁, hattempt, hwritten⟩ := hfirst w
      have hrun : ((retryingFrom policy what act 0 n).run cut w).2 = w₁ := by
        cases r with
        | none => rw [run_retryingFrom_cut hattempt]
        | some r => rw [run_retryingFrom_last hattempt (.inl rfl)]
      rw [hrun]
      exact hwritten.mono fun h hh => .inl hh
  | succ left ih =>
      obtain ⟨r, w₁, hattempt, hwritten⟩ := hfirst w
      have hmore := hwritten.mono fun h (hh : K h) => (.inl hh : K h ∨ ∃ (e : ε) (i : Nat),
        Failure.isTransient e = true ∧ n ≤ i ∧ i < n + (left + 1) ∧
          h.2 = .log (retryLine policy what e i))
      obtain rfl | ⟨r, rfl⟩ := r.eq_none_or_eq_some
      · rwa [run_retryingFrom_cut hattempt]
      cases hpassing : isPassing r with
      | false => rwa [run_retryingFrom_last hattempt (.inr hpassing)]
      | true =>
          obtain ⟨e, rfl, htransient⟩ := eq_error_of_isPassing hpassing
          rcases policy.repetition?_cases n with hnone | hsome
          · rwa [run_retryingFrom_overflow hattempt htransient hnone]
          · obtain ⟨isOver, w₂, hwaited, hjournal⟩ := exists_run_waited (policy.wait n) cut
              (announced policy what e n w₁)
            rw [run_retryingFrom_failed hattempt htransient hsome hwaited]
            have hline : w₂.journal = w₁.journal ++ [(w₁.now, .log (retryLine policy what e n))] :=
              hjournal
            refine (hmore.trans
              (.of_note hline (.inr ⟨e, n, htransient, Nat.le_refl n, by omega, rfl⟩))).trans ?_
            cases isOver with
            | false => exact .of_journal_eq rfl
            | true =>
                refine (ih (n + 1) w₂).mono fun h hh => hh.imp_right ?_
                rintro ⟨e, i, htransient, hle, hlt, hline⟩
                exact ⟨e, i, htransient, by omega, by omega, hline⟩

omit [Failure ε] in
/-- The outcome of an attempt is no overflow. -/
theorem mapError_ne_overflow (r : Except ε α) : r.mapError Halt.failed ≠ .error .overflow := by
  cases r <;> nofun

/-- Repeated work does not overflow as long as its attempts are counted, by induction on the attempts
that are left. -/
theorem run_retryingFrom_ne_overflow (left n : Nat)
    (hcounted : ∀ i, n ≤ i → i < n + left → policy.repetition? i = some (policy.repetition i))
    (w : World σ) :
    ((retryingFrom policy what act left n).run cut w).1 ≠ some (.error .overflow) := by
  induction left generalizing n w with
  | zero =>
      obtain ⟨r, w₁, hattempt, -⟩ := exists_run_attempt act cut w
      obtain rfl | ⟨r, rfl⟩ := r.eq_none_or_eq_some
      · simp [run_retryingFrom_cut hattempt]
      · rw [run_retryingFrom_last hattempt (.inl rfl)]
        exact fun h => mapError_ne_overflow r (Option.some_inj.1 h)
  | succ left ih =>
      obtain ⟨r, w₁, hattempt, -⟩ := exists_run_attempt act cut w
      obtain rfl | ⟨r, rfl⟩ := r.eq_none_or_eq_some
      · simp [run_retryingFrom_cut hattempt]
      cases hpassing : isPassing r with
      | false =>
          rw [run_retryingFrom_last hattempt (.inr hpassing)]
          exact fun h => mapError_ne_overflow r (Option.some_inj.1 h)
      | true =>
          obtain ⟨e, rfl, htransient⟩ := eq_error_of_isPassing hpassing
          obtain ⟨isOver, w₂, hwaited, -⟩ := exists_run_waited (policy.wait n) cut
            (announced policy what e n w₁)
          have hfirst := hcounted n (Nat.le_refl n) (by omega)
          rw [run_retryingFrom_failed hattempt htransient hfirst hwaited]
          cases isOver with
          | false => simp
          | true => exact ih (n + 1) (fun i hi hlt => hcounted i (by omega) (by omega)) w₂

/-- Whatever the policy, no wait is too long for its machine number and no attempt has a number that
is too large to be counted from zero. If there are fewer retries than 32 bits can count, no other
number is too large: repeated work does not overflow, from every world and with every cut, whatever
the work is. What it writes beside what its attempts write announces attempts by numbers that are not
greater than the number of all attempts, which 32 bits hold. With the largest number of retries the
number of all attempts overflows as soon as a first attempt fails for a passing reason. -/
theorem retrying_counts (policy : RetryPolicy) (what : String) (act : Work σ (Except ε α)) :
    (∀ n < policy.retries.toNat, policy.wait? n = some (policy.wait n) ∧
      Machine.sum? n 1 = some (n + 1)) ∧
    (policy.retries.toNat < UInt32.size - 1 →
      (∀ n < policy.retries.toNat, policy.repetition? n = some (policy.repetition n)) ∧
      ∀ (cut : Option Nat) (w w' : World σ) (result : Option (Except (Halt ε) α)),
        (retrying policy what act).run cut w = (result, w') →
        result ≠ some (.error .overflow) ∧
        ∀ K : Nat × Happening → Prop, (∀ w₁ : World σ, w₁.Continues (act.run cut w₁).2 K) →
          w.Continues w' fun h => K h ∨ ∃ (e : ε) (r : Repetition),
            Failure.isTransient e = true ∧ h.2 = .log (announcement what e r) ∧
            2 ≤ r.shown ∧ r.shown ≤ r.total ∧ r.total = policy.retries.toNat + 1 ∧
            r.total < UInt32.size) ∧
    (policy.retries.toNat = UInt32.size - 1 → ∀ (cut : Option Nat) (w w' : World σ) (e : ε),
      (attempt act).run cut w = (some (some (.error e)), w') → Failure.isTransient e = true →
      (retrying policy what act).run cut w = (some (.error .overflow), w')) := by
  refine ⟨fun n hn => ⟨policy.wait?_eq n, Machine.sum?_eq_some_iff.2 ⟨?_, rfl⟩⟩,
    fun hmax => ⟨fun n hn => RetryPolicy.repetition?_eq hmax hn, ?_⟩, ?_⟩
  · have hretries : policy.retries.toNat < UInt32.size := policy.retries.toNat_lt_size
    omega
  · intro cut w w' result hrun
    constructor
    · have hcounted : ((retrying policy what act).run cut w).1 ≠ some (.error .overflow) :=
        run_retryingFrom_ne_overflow policy.retries.toNat 0
          (fun i _ hi => RetryPolicy.repetition?_eq hmax (by omega)) w
      rwa [hrun] at hcounted
    · intro K hact
      have hwritten : w.Continues ((retrying policy what act).run cut w).2 _ :=
        continues_retryingFrom hact policy.retries.toNat 0 w
      rw [hrun] at hwritten
      refine hwritten.mono fun h hh => hh.imp_right ?_
      rintro ⟨e, i, htransient, -, hlt, hline⟩
      have hshown : i + 2 ≤ policy.retries.toNat + 1 := by omega
      exact ⟨e, policy.repetition i, htransient, hline, by simp [RetryPolicy.repetition], hshown, rfl,
        by simp only [RetryPolicy.repetition]; omega⟩
  · intro hmax cut w w' e hattempt htransient
    have hpos := RetryPolicy.retries_pos hmax
    obtain ⟨left, hleft⟩ : ∃ left, policy.retries.toNat = left + 1 :=
      ⟨policy.retries.toNat - 1, by omega⟩
    rw [retrying, hleft]
    exact run_retryingFrom_overflow hattempt htransient (RetryPolicy.repetition?_of_max hmax)

open Faltering in
/-- With one retry fewer than 32 bits can count the numbers are right. -/
theorem retrying_counts_many :
    (course 4294967294).policy.retries.toNat < UInt32.size - 1 ∧
      (retrying (course 4294967294).policy "op"
          (.trial (course 4294967294).outcomes (course 4294967294).takes)).run none
          ((course 4294967294).before 0) = (some (.ok 1), (course 4294967294).after 1) ∧
      (some (.ok 1) : Option (Except (Halt CopyError) Nat)) ≠ some (.error .overflow) ∧
      ((course 4294967294).after 1).journal = [(0, .log ⟨.warn,
        "op failed: connection reset. Retrying (attempt 2/4294967295) after 250ms..."⟩)] := by
  have hmax : (course 4294967294).policy.retries.toNat < UInt32.size - 1 := by decide
  have hrun : (retrying (course 4294967294).policy "op"
      (.trial (course 4294967294).outcomes (course 4294967294).takes)).run none
      ((course 4294967294).before 0) = (some (.ok 1), (course 4294967294).after 1) :=
    Course.run_work (.last (isLast_course (by decide)) (.inr hmax)) (by simp)
  obtain ⟨-, hcounts, -⟩ := retrying_counts (course 4294967294).policy "op"
    (.trial (course 4294967294).outcomes (course 4294967294).takes)
  exact ⟨hmax, hrun, ((hcounts hmax).2 none _ _ _ hrun).1, by decide +kernel⟩

open Faltering in
/-- With the largest number of retries the number of all attempts, which is to be announced with the
second attempt, does not fit into 32 bits, and the program stops. -/
theorem retrying_overflows :
    Machine.sum? (course 4294967295).policy.retries.toNat 1 = none ∧
      (course 4294967295).policy.repetition? 0 = none ∧
      (retrying (course 4294967295).policy "op"
          (.trial (course 4294967295).outcomes (course 4294967295).takes)).run none
          ((course 4294967295).before 0) =
        (some (.error .overflow), (course 4294967295).after 0) :=
  ⟨by decide, by decide, Course.run_work (.overflow rfl rfl) (by simp)⟩

end ImageSync.Work
