import ImageSync.Proofs.Run.Attempt
import ImageSync.Run.Execute

/-!
# Runs that are not cut

Without a cut every piece of work comes to its end. This module says what the copy of one image,
with all its attempts, leaves behind in the journal.

## Main definitions

* `deeds journal`: what a journal records, log lines apart.
* `World.Grows w w' ds`: the journal of `w'` goes on behind that of `w` with these deeds.
-/

namespace ImageSync

variable {σ ε α : Type}

/-! ## Journals -/

/-- Whether something that happened is only a line of the log. -/
def Happening.isLog : Happening → Bool
  | log _ => true
  | _ => false

/-- What a journal records, log lines apart. -/
def deeds (journal : List (Nat × Happening)) : List Happening :=
  (journal.map Prod.snd).filter fun h => !h.isLog

@[simp] theorem deeds_nil : deeds [] = [] := rfl

@[simp] theorem deeds_append (a b : List (Nat × Happening)) :
    deeds (a ++ b) = deeds a ++ deeds b := by
  simp [deeds]

@[simp] theorem deeds_logs (now : Nat) (lines : List LogLine) :
    deeds (lines.map fun line => (now, Happening.log line)) = [] := by
  simp [deeds, Happening.isLog]

/-- The journal of `w'` is that of `w` with these deeds, and any lines of the log, behind it. -/
def World.Grows (w w' : World σ) (ds : List Happening) : Prop :=
  ∃ happened, w'.journal = w.journal ++ happened ∧ deeds happened = ds

namespace World.Grows

variable {w w' w'' : World σ} {ds ds' : List Happening}

theorem of_journal_eq (h : w'.journal = w.journal) : w.Grows w' [] := ⟨[], by simp [h], rfl⟩

theorem of_note {h : Happening} (hlog : h.isLog = false) {now : Nat}
    (hw : w'.journal = w.journal ++ [(now, h)]) : w.Grows w' [h] :=
  ⟨[(now, h)], hw, by simp [deeds, hlog]⟩

theorem of_logs (now : Nat) (lines : List LogLine)
    (hw : w'.journal = w.journal ++ lines.map fun line => (now, .log line)) : w.Grows w' [] :=
  ⟨_, hw, deeds_logs now lines⟩

theorem trans (h : w.Grows w' ds) (h' : w'.Grows w'' ds') : w.Grows w'' (ds ++ ds') := by
  obtain ⟨a, ha, rfl⟩ := h
  obtain ⟨b, hb, rfl⟩ := h'
  exact ⟨a ++ b, by rw [hb, ha, List.append_assoc], deeds_append a b⟩

end World.Grows

/-! ## One copy -/

/-- A copy notes its start and its success; the tree and the services go on from their answer. -/
theorem Services.run_copyImage (s : Services σ) (job : CopyJob) (w : World σ) :
    ∃ w', (s.copyImage job).run none w = (some (s.copy job w.tree w.services).1.result, w') ∧
      w'.tree = (s.copy job w.tree w.services).2.1 ∧
      w'.services = (s.copy job w.tree w.services).2.2 ∧
      w.Grows w' (.attempt job ::
        if (s.copy job w.tree w.services).1.result.isOk then [.copied job] else []) := by
  let reply := (s.copy job w.tree w.services).1
  let w₁ : World σ := { w with journal := w.journal ++ [(w.now, .attempt job)] }
  let w₂ : World σ := {
    now := w.now + reply.takes, tree := (s.copy job w.tree w.services).2.1
    journal := w₁.journal ++ reply.notes.map fun line => (w.now, .log line)
    services := (s.copy job w.tree w.services).2.2 }
  have hstart : w.Grows w₁ [.attempt job] := .of_note rfl rfl
  have hend : w₁.Grows w₂ [] := .of_logs w.now reply.notes rfl
  by_cases hok : reply.result.isOk = true
  · let w₃ : World σ := { w₂ with journal := w₂.journal ++ [(w₂.now, .copied job)] }
    have hcopied : w₂.Grows w₃ [.copied job] := .of_note rfl rfl
    refine ⟨w₃, ?_, rfl, rfl, ?_⟩
    · simp only [Services.copyImage, Work.run_bind, Work.run_note, Work.run_world,
        Work.run_setWorld, Work.run_logAll, Work.run_pause_none, show
        (s.copy job w.tree w.services).1.result.isOk = true from hok, if_true]
      rfl
    · rw [if_pos hok]
      exact hstart.trans (hend.trans hcopied)
  · refine ⟨w₂, ?_, rfl, rfl, ?_⟩
    · simp only [Services.copyImage, Work.run_bind, Work.run_note, Work.run_world,
        Work.run_setWorld, Work.run_logAll, Work.run_pause_none]
      rw [if_neg hok]
      rfl
    · rw [if_neg hok]
      exact hstart.trans hend

namespace Work

theorem run_attempt_none {act : Work σ (Except ε α)} {result : Except ε α} {w w' : World σ}
    (h : act.run none w = (some result, w')) :
    (attempt act).run none w = (some (some result), w') := by
  simp [attempt, run_bind, h]

theorem run_waited_none (duration : Nat) (w : World σ) :
    (waited duration : Work σ Bool).run none w = (some true, { w with now := w.now + duration }) := by
  simp [waited, run_bind]

theorem isOk_mapError {ε' : Type} (f : ε → ε') (r : Except ε α) : (r.mapError f).isOk = r.isOk := by
  cases r <;> rfl

variable [Failure ε]

/-- Work that succeeds at once is not repeated. -/
theorem run_retrying_of_ok {policy : RetryPolicy} {what : String} {act : Work σ (Except ε α)}
    {a : α} {w w' : World σ} (h : act.run none w = (some (.ok a), w')) :
    (retrying policy what act).run none w = (some (.ok a), w') :=
  run_retryingFrom_last (run_attempt_none h) (.inr rfl)

/-- Repeated work preserves what one attempt preserves of the file tree. -/
theorem run_retryingFrom_tree {I : FileTree → Prop} {act : Work σ (Except ε α)}
    (hact : ∀ w, I w.tree → ∃ result w', act.run none w = (some result, w') ∧ I w'.tree)
    (policy : RetryPolicy) (what : String) (left n : Nat) {w : World σ} (hI : I w.tree) :
    ∃ result w', (retryingFrom policy what act left n).run none w = (some result, w') ∧
      I w'.tree := by
  induction left generalizing n w with
  | zero =>
      obtain ⟨result, w', hrun, hI'⟩ := hact w hI
      exact ⟨_, w', run_retryingFrom_last (run_attempt_none hrun) (.inl rfl), hI'⟩
  | succ left ih =>
      obtain ⟨result, w', hrun, hI'⟩ := hact w hI
      have hattempt := run_attempt_none hrun
      cases hpassing : isPassing result with
      | false => exact ⟨_, w', run_retryingFrom_last hattempt (.inr hpassing), hI'⟩
      | true =>
          obtain ⟨e, rfl, htransient⟩ := eq_error_of_isPassing hpassing
          rcases policy.repetition?_cases n with hnone | hsome
          · exact ⟨_, w', run_retryingFrom_overflow hattempt htransient hnone, hI'⟩
          · rw [run_retryingFrom_failed hattempt htransient hsome (run_waited_none ..), if_pos rfl]
            exact ih (n + 1) hI'

/-- Repeated copies are attempts at one job: at most one more than may be repeated, and the last of
them alone may succeed. -/
theorem run_retryingFrom_copyImage (policy : RetryPolicy) (what : String) (s : Services σ)
    (job : CopyJob) (left n : Nat) (w : World σ) :
    ∃ result w' attempts,
      (retryingFrom policy what (s.copyImage job) left n).run none w = (some result, w') ∧
      1 ≤ attempts ∧ attempts ≤ left + 1 ∧
      w.Grows w' (List.replicate attempts (.attempt job) ++
        if result.isOk then [.copied job] else []) := by
  induction left generalizing n w with
  | zero =>
      obtain ⟨w', hrun, -, -, hgrows⟩ := s.run_copyImage job w
      exact ⟨_, w', 1, run_retryingFrom_last (run_attempt_none hrun) (.inl rfl), Nat.le_refl 1,
        Nat.le_refl 1, by rwa [isOk_mapError]⟩
  | succ left ih =>
      obtain ⟨w', hrun, -, -, hgrows⟩ := s.run_copyImage job w
      have hattempt := run_attempt_none hrun
      cases hpassing : isPassing (s.copy job w.tree w.services).1.result with
      | false =>
          exact ⟨_, w', 1, run_retryingFrom_last hattempt (.inr hpassing), Nat.le_refl 1, by omega,
            by rwa [isOk_mapError]⟩
      | true =>
          obtain ⟨e, hresult, htransient⟩ := eq_error_of_isPassing hpassing
          rw [hresult] at hattempt hgrows
          have hfirst : w.Grows w' [.attempt job] := hgrows
          rcases policy.repetition?_cases n with hnone | hsome
          · exact ⟨_, w', 1, run_retryingFrom_overflow hattempt htransient hnone, Nat.le_refl 1,
              by omega, hfirst⟩
          · let w₂ : World σ :=
              { announced policy what e n w' with now := w'.now + policy.wait n }
            have hlogged : w'.Grows w₂ [] := .of_logs w'.now [retryLine policy what e n] rfl
            obtain ⟨result, w₃, attempts, hrest, hpos, hle, hmore⟩ := ih (n + 1) w₂
            refine ⟨result, w₃, attempts + 1, ?_, by omega, by omega,
              hfirst.trans (hlogged.trans hmore)⟩
            rw [run_retryingFrom_failed hattempt htransient hsome (run_waited_none ..), if_pos rfl]
            exact hrest

end Work

/-- A job is attempted until it succeeds, fails for good, has used up its attempts or cannot be
announced again. -/
theorem run_copyWithRetry (s : Services σ) (options : RunOptions) (job : CopyJob) (w : World σ) :
    ∃ w' attempts, 1 ≤ attempts ∧ attempts ≤ options.retry.retries.toNat + 1 ∧
      (((copyWithRetry s options job).run none w = (some (.ok ()), w') ∧
          w.Grows w' (List.replicate attempts (.attempt job) ++ [.copied job])) ∨
        ∃ cause : Halt CopyError, (copyWithRetry s options job).run none w =
            (some (.error (cause.map job.failure)), w') ∧
          w.Grows w' (List.replicate attempts (.attempt job))) := by
  obtain ⟨result, w', attempts, hrun, hpos, hle, hgrows⟩ :=
    Work.run_retryingFrom_copyImage options.retry ("Copying " ++ job.source.text) s job
      options.retry.retries.toNat 0 w
  refine ⟨w', attempts, hpos, hle, ?_⟩
  rw [copyWithRetry, Work.run_bind, Work.retrying, hrun]
  cases result with
  | ok a => exact .inl ⟨rfl, hgrows⟩
  | error e => exact .inr ⟨e, rfl, by simpa [Except.isOk, Except.toBool] using hgrows⟩

/-- A job preserves what one copy preserves of the file tree. If it fails then at a copy. -/
theorem tree_copyWithRetry {I : FileTree → Prop} {s : Services σ} {options : RunOptions}
    {job : CopyJob} (hcopy : ∀ tree state, I tree → I (s.copy job tree state).2.1) {w : World σ}
    (hI : I w.tree) :
    ∃ result w', (copyWithRetry s options job).run none w = (some result, w') ∧ I w'.tree ∧
      ∀ path, result ≠ .error (.failed (.destinationExists path)) := by
  have hattempt : ∀ w, I w.tree →
      ∃ result w', (s.copyImage job).run none w = (some result, w') ∧ I w'.tree := by
    intro w hI
    obtain ⟨w', hrun, htree, -⟩ := s.run_copyImage job w
    exact ⟨_, w', hrun, htree ▸ hcopy _ _ hI⟩
  obtain ⟨result, w', hrun, htree⟩ := Work.run_retryingFrom_tree (I := I) hattempt options.retry
    ("Copying " ++ job.source.text) options.retry.retries.toNat 0 hI
  rw [copyWithRetry, Work.run_bind, Work.retrying, hrun]
  cases result with
  | ok a => exact ⟨.ok (), w', rfl, htree, by simp⟩
  | error e =>
      refine ⟨_, w', rfl, htree, fun path => ?_⟩
      cases e with
      | overflow => nofun
      | failed e => cases e <;> nofun

end ImageSync
