import ImageSync.Proofs.Run.Attempt

/-!
# Work that is cut

A cut that is still to come is not noticed. So cut work is the work without a cut up to the instant of
the cut: the same happens before that instant and nothing happens from then on. Work that is repeated
turns the cut into an error, which depends on whether it falls into a wait.

## Main definitions

* `World.Continues w w' K`: what stands in the journal of `w'` behind that of `w` is of the kind `K`.
* `Work.Lasts`: what work does without a cut, and what it gives when it is cut.
* `Wait`, `Work.waits`: the waits between the attempts of repeated work.
* `Wait.errorAt waits T`: the error that a cut at `T` leads to.
* `Work.Stops`: work that gives this error when it is cut.

## Main statements

* `Work.Lasts.bind`: work behind other work.
* `Work.stops_retryingFrom`: repeated work.
-/

namespace ImageSync

variable {σ ε α β : Type}

/-! ## Journals -/

/-- The journal of `w'` goes on behind that of `w` with happenings of one kind. -/
def World.Continues (w w' : World σ) (K : Nat × Happening → Prop) : Prop :=
  ∃ happened, w'.journal = w.journal ++ happened ∧ ∀ h ∈ happened, K h

namespace World.Continues

variable {w w' w'' : World σ} {K K' : Nat × Happening → Prop}

theorem of_journal_eq (h : w'.journal = w.journal) : w.Continues w' K := ⟨[], by simp [h], by simp⟩

theorem of_note {h : Nat × Happening} (hw : w'.journal = w.journal ++ [h]) (hK : K h) :
    w.Continues w' K :=
  ⟨[h], hw, by simpa using hK⟩

theorem mono (h : w.Continues w' K) (hK : ∀ x, K x → K' x) : w.Continues w' K' := by
  obtain ⟨happened, hjournal, hkind⟩ := h
  exact ⟨happened, hjournal, fun x hx => hK x (hkind x hx)⟩

theorem trans (h : w.Continues w' K) (h' : w'.Continues w'' K) : w.Continues w'' K := by
  obtain ⟨a, ha, hK⟩ := h
  obtain ⟨b, hb, hK'⟩ := h'
  refine ⟨a ++ b, by rw [hb, ha, List.append_assoc], fun x hx => ?_⟩
  rcases List.mem_append.1 hx with hx | hx
  · exact hK x hx
  · exact hK' x hx

theorem and (h : w.Continues w' K) (h' : w.Continues w' K') :
    w.Continues w' fun x => K x ∧ K' x := by
  obtain ⟨a, ha, hK⟩ := h
  obtain ⟨b, hb, hK'⟩ := h'
  obtain rfl : a = b := List.append_cancel_left (ha.symm.trans hb)
  exact ⟨a, ha, fun x hx => ⟨hK x hx, hK' x hx⟩⟩

end World.Continues

/-! ## Work that lasts -/

namespace Work

/-- The work from `w` ends with `a` in `w'`, and does so with every cut that comes later. Of a cut at
an instant `T` before the end nothing is seen but that the work gives `broken T` and that all of its
happenings from `T` on are missing. -/
structure Lasts (P : Happening → Prop) (x : Work σ α) (w : World σ) (a : α) (w' : World σ)
    (broken : Nat → Option α) : Prop where
  run_eq : ∀ cut : Option Nat, (∀ T ∈ cut, w'.now < T) → x.run cut w = (some a, w')
  now_le : w.now ≤ w'.now
  journal : w.Continues w' fun h => P h.2 ∧ w.now ≤ h.1 ∧ h.1 ≤ w'.now
  run_cut : ∀ T, w.now < T → T ≤ w'.now → ∃ w'', x.run (some T) w = (broken T, w'') ∧
    w.Continues w'' (fun h => h.1 < T) ∧ w''.Continues w' fun h => T ≤ h.1

/-- Work that a cut breaks off. -/
abbrev Breaks (P : Happening → Prop) (x : Work σ α) (w : World σ) (a : α) (w' : World σ) : Prop :=
  x.Lasts P w a w' fun _ => none

namespace Lasts

variable {P : Happening → Prop} {w w₁ w₂ : World σ} {a : α} {b : β} {x : Work σ α}
  {f : α → Work σ β} {broken : Nat → Option α} {broken' broken'' : Nat → Option β}

theorem run_none (h : x.Lasts P w a w₁ broken) : x.run none w = (some a, w₁) :=
  h.run_eq none (by simp)

theorem run_some (h : x.Lasts P w a w₁ broken) {T : Nat} (hT : w₁.now < T) :
    x.run (some T) w = (some a, w₁) :=
  h.run_eq (some T) (by simpa using hT)

theorem mono {P' : Happening → Prop} (h : x.Lasts P w a w₁ broken) (hP : ∀ d, P d → P' d) :
    x.Lasts P' w a w₁ broken :=
  { h with journal := h.journal.mono fun d hd => ⟨hP d.2 hd.1, hd.2⟩ }

/-- Work that takes no time is not cut. -/
theorem of_instant (hrun : ∀ cut : Option Nat, (∀ T ∈ cut, w.now < T) → x.run cut w = (some a, w₁))
    (hnow : w₁.now = w.now) (hjournal : w.Continues w₁ fun h => P h.2 ∧ h.1 = w.now) :
    x.Lasts P w a w₁ broken where
  run_eq := by simpa only [hnow] using hrun
  now_le := Nat.le_of_eq hnow.symm
  journal := hjournal.mono fun h hh =>
    ⟨hh.1, Nat.le_of_eq hh.2.symm, Nat.le_of_eq (hh.2.trans hnow.symm)⟩
  run_cut T hlt hle := by omega

/-- Work behind other work. A cut during the first is left to `hfirst`; a cut behind its end is one of
the second. -/
theorem bind (hx : x.Lasts P w a w₁ broken) (hf : (f a).Lasts P w₁ b w₂ broken')
    (hfirst : ∀ T w', w.now < T → T ≤ w₁.now → x.run (some T) w = (broken T, w') →
      (x >>= f).run (some T) w = (broken'' T, w'))
    (hsecond : ∀ T, w₁.now < T → T ≤ w₂.now → broken'' T = broken' T) :
    (x >>= f).Lasts P w b w₂ broken'' where
  run_eq cut hcut := by
    have hlater : ∀ T ∈ cut, w₁.now < T := fun T hT =>
      Nat.lt_of_le_of_lt hf.now_le (hcut T hT)
    rw [run_bind_of_some (hx.run_eq cut hlater)]
    exact hf.run_eq cut hcut
  now_le := Nat.le_trans hx.now_le hf.now_le
  journal := by
    have hle := hx.now_le
    have hle' := hf.now_le
    exact (hx.journal.mono fun h hh => ⟨hh.1, hh.2.1, by omega⟩).trans
      (hf.journal.mono fun h hh => ⟨hh.1, by omega, hh.2.2⟩)
  run_cut T hlt hle := by
    by_cases hT : T ≤ w₁.now
    · obtain ⟨w', hrun, hearly, hlate⟩ := hx.run_cut T hlt hT
      refine ⟨w', hfirst T w' hlt hT hrun, hearly, hlate.trans (hf.journal.mono fun h hh => ?_)⟩
      exact Nat.le_trans hT hh.2.1
    · have hT : w₁.now < T := Nat.lt_of_not_le hT
      obtain ⟨w', hrun, hearly, hlate⟩ := hf.run_cut T hT hle
      refine ⟨w', ?_, (hx.journal.mono fun h hh => ?_).trans hearly, hlate⟩
      · rw [run_bind_of_some (hx.run_some hT), hrun, hsecond T hT hle]
      · exact Nat.lt_of_le_of_lt hh.2.2 hT

end Lasts

namespace Breaks

variable {P : Happening → Prop} {w w₁ w₂ : World σ} {a : α} {b : β} {x : Work σ α}
  {f : α → Work σ β} {broken : Nat → Option β}

/-- A cut breaks off work together with what comes behind it. -/
theorem bind (hx : x.Breaks P w a w₁) (hf : (f a).Breaks P w₁ b w₂) : (x >>= f).Breaks P w b w₂ :=
  Lasts.bind hx hf (fun _ _ _ _ h => run_bind_of_none h) fun _ _ _ => rfl

/-- Behind work that takes no time everything is as if it came first. -/
theorem bind_lasts (hx : x.Breaks P w a w₁) (hnow : w₁.now = w.now)
    (hf : (f a).Lasts P w₁ b w₂ broken) : (x >>= f).Lasts P w b w₂ broken :=
  Lasts.bind hx hf (fun T w' hlt hle _ => absurd hlt (by omega)) fun _ _ _ => rfl

end Breaks

/-! ## Primitives -/

section Primitives

variable {P : Happening → Prop}

theorem lasts_pure (a : α) (w : World σ) (broken : Nat → Option α) :
    (pure a : Work σ α).Lasts P w a w broken :=
  .of_instant (fun _ _ => rfl) rfl (.of_journal_eq rfl)

theorem breaks_note {h : Happening} (hP : P h) (w : World σ) :
    (note h : Work σ Unit).Breaks P w () { w with journal := w.journal ++ [(w.now, h)] } :=
  .of_instant (fun _ _ => rfl) rfl (.of_note rfl ⟨hP, rfl⟩)

theorem breaks_world (w : World σ) : (world : Work σ (World σ)).Breaks P w w w :=
  .of_instant (fun _ _ => rfl) rfl (.of_journal_eq rfl)

theorem breaks_setWorld {w w' : World σ} (hnow : w'.now = w.now)
    (hjournal : w'.journal = w.journal) : (setWorld w').Breaks P w () w' :=
  .of_instant (fun _ _ => rfl) hnow (.of_journal_eq hjournal)

theorem breaks_isCut (w : World σ) : (isCut : Work σ Bool).Breaks P w false w := by
  refine .of_instant (fun cut hcut => ?_) rfl (.of_journal_eq rfl)
  cases cut with
  | none => rfl
  | some T =>
      have hT : w.now < T := hcut T rfl
      simp [isCut, run, hT]

theorem breaks_logAll (hP : ∀ line, P (.log line)) (lines : List LogLine) (w : World σ) :
    (logAll lines).Breaks P w ()
      { w with journal := w.journal ++ lines.map fun line => (w.now, .log line) } := by
  refine .of_instant (fun cut _ => run_logAll lines cut w) rfl ⟨_, rfl, fun h hh => ?_⟩
  obtain ⟨line, -, rfl⟩ := List.mem_map.1 hh
  exact ⟨hP line, rfl⟩

theorem breaks_pause (duration : Nat) (w : World σ) :
    (pause duration : Work σ Unit).Breaks P w () { w with now := w.now + duration } where
  run_eq cut hcut := by
    cases cut with
    | none => rfl
    | some T =>
        have hT : w.now + duration < T := hcut T rfl
        have hin : ¬(duration ≠ 0 ∧ T ≤ w.now + duration) := by omega
        simp only [run, pause, if_neg hin]
  now_le := Nat.le_add_right w.now duration
  journal := .of_journal_eq rfl
  run_cut T hlt hle := by
    have hin : duration ≠ 0 ∧ T ≤ w.now + duration := by
      have hle : T ≤ w.now + duration := hle
      omega
    refine ⟨{ w with now := max w.now T }, ?_, .of_journal_eq rfl, .of_journal_eq rfl⟩
    simp only [run, pause, if_pos hin]

/-- A wait comes to its end, or a cut is told. -/
theorem lasts_waited (duration : Nat) (w : World σ) :
    (waited duration : Work σ Bool).Lasts P w true { w with now := w.now + duration }
      fun _ => some false := by
  have hpause : ((pause duration).orCut >>= fun r => pure r.isSome : Work σ Bool).Lasts P w true
      { w with now := w.now + duration } fun _ => some false := by
    have h := breaks_pause (P := P) duration w
    refine ⟨fun cut hcut => ?_, h.now_le, h.journal, fun T hlt hle => ?_⟩
    · rw [run_bind, run_orCut, h.run_eq cut hcut]
      rfl
    · obtain ⟨w', hrun, hjournal⟩ := h.run_cut T hlt hle
      refine ⟨w', ?_, hjournal⟩
      rw [run_bind, run_orCut, hrun]
      rfl
  exact (breaks_isCut w).bind_lasts rfl hpause

end Primitives

end Work

/-! ## Waits -/

/-- A wait between two attempts: from when to when, and the error of the attempt before it. -/
structure Wait (ε : Type) where
  start : Nat
  stop : Nat
  error : ε

namespace Wait

/-- The same wait with another error. -/
def map {ε' : Type} (φ : ε → ε') (v : Wait ε) : Wait ε' := ⟨v.start, v.stop, φ v.error⟩

/-- Whether an instant falls into the wait. -/
def Spans (v : Wait ε) (T : Nat) : Prop := v.start < T ∧ T ≤ v.stop

instance (v : Wait ε) (T : Nat) : Decidable (v.Spans T) := inferInstanceAs (Decidable (_ ∧ _))

variable [Failure ε]

/-- The error that a cut leads to: the one of the attempt before the wait that it falls into. Outside
of all waits it is that of broken-off work. -/
def errorAt (waits : List (Wait ε)) (T : Nat) : ε :=
  ((waits.find? fun v => v.Spans T).map error).getD Failure.cancelled

@[simp] theorem errorAt_nil (T : Nat) : errorAt ([] : List (Wait ε)) T = Failure.cancelled := rfl

theorem errorAt_cons_of_spans {v : Wait ε} {T : Nat} (h : v.Spans T) (waits : List (Wait ε)) :
    errorAt (v :: waits) T = v.error := by
  simp [errorAt, h]

/-- Waits that end before an instant do not count. -/
theorem errorAt_append_of_lt {a : List (Wait ε)} {T : Nat} (h : ∀ v ∈ a, v.stop < T)
    (b : List (Wait ε)) : errorAt (a ++ b) T = errorAt b T := by
  have hnone : (a.find? fun v => v.Spans T) = none :=
    List.find?_eq_none.2 fun v hv hspans => by
      have hspans : v.Spans T := of_decide_eq_true hspans
      have hv := h v hv
      unfold Spans at hspans
      omega
  rw [errorAt, List.find?_append, hnone, Option.none_or, errorAt]

/-- Waits that start at an instant or later do not count. -/
theorem errorAt_append_of_le {b : List (Wait ε)} {T : Nat} (h : ∀ v ∈ b, T ≤ v.start)
    (a : List (Wait ε)) : errorAt (a ++ b) T = errorAt a T := by
  have hnone : (b.find? fun v => v.Spans T) = none :=
    List.find?_eq_none.2 fun v hv hspans => by
      have hspans : v.Spans T := of_decide_eq_true hspans
      have hv := h v hv
      unfold Spans at hspans
      omega
  rw [errorAt, List.find?_append, hnone, Option.or_none, errorAt]

theorem errorAt_of_le {waits : List (Wait ε)} {T : Nat} (h : ∀ v ∈ waits, T ≤ v.start) :
    errorAt waits T = Failure.cancelled :=
  errorAt_append_of_le h []

theorem errorAt_map {ε' : Type} [Failure ε'] {φ : ε → ε'}
    (hφ : φ Failure.cancelled = Failure.cancelled) (waits : List (Wait ε)) (T : Nat) :
    errorAt (waits.map (map φ)) T = φ (errorAt waits T) := by
  have hspans : ((fun v => decide (v.Spans T)) ∘ map φ) = fun v : Wait ε => decide (v.Spans T) := rfl
  rw [errorAt, errorAt, List.find?_map, hspans]
  cases waits.find? fun v => decide (v.Spans T) with
  | none => exact hφ.symm
  | some v => rfl

theorem errorAt_cases (waits : List (Wait ε)) (T : Nat) :
    (∃ v ∈ waits, v.Spans T ∧ errorAt waits T = v.error) ∨
      (∀ v ∈ waits, ¬v.Spans T) ∧ errorAt waits T = Failure.cancelled := by
  cases hfind : waits.find? fun v => v.Spans T with
  | some v =>
      have hspans : v.Spans T := by simpa using List.find?_some hfind
      exact .inl ⟨v, List.mem_of_find?_eq_some hfind, hspans, by simp [errorAt, hfind]⟩
  | none =>
      refine .inr ⟨fun v hv => ?_, by simp [errorAt, hfind]⟩
      simpa using List.find?_eq_none.1 hfind v hv

end Wait

namespace Work

variable [Failure ε]

/-- The world after a failed attempt, its announcement and the wait behind it. -/
def afterWait (policy : RetryPolicy) (what : String) (e : ε) (n : Nat) (w : World σ) : World σ :=
  { w with
    journal := w.journal ++ [(w.now, .log (retryLine policy what e n))]
    now := w.now + policy.wait n }

/-- The waits of repeated work that is not cut, from attempt `n` on. There is none behind an attempt
after which a number is too large. -/
def waits (policy : RetryPolicy) (what : String) (act : Work σ (Except ε α)) :
    (left n : Nat) → World σ → List (Wait ε)
  | 0, _, _ => []
  | left + 1, n, w =>
    match act.run none w with
    | (some (.error e), w) =>
      if Failure.isTransient e && (policy.repetition? n).isSome then
        ⟨w.now, w.now + policy.wait n, e⟩ ::
          waits policy what act left (n + 1) (afterWait policy what e n w)
      else []
    | _ => []

/-- The work from `w` ends with a result in `w'` and has these waits. A cut before the end stops it
with the error that belongs to the instant of the cut. -/
structure Stops (P : Happening → Prop) (x : Work σ (Except (Halt ε) α)) (w : World σ)
    (r : Except (Halt ε) α) (w' : World σ) (waits : List (Wait ε)) : Prop where
  lasts : x.Lasts P w r w' fun T => some (.error (.failed (Wait.errorAt waits T)))
  between : ∀ v ∈ waits, w.now ≤ v.start ∧ v.stop ≤ w'.now

namespace Stops

variable {ε' : Type} [Failure ε'] {P : Happening → Prop} {w w₁ w₂ : World σ}
  {r : Except (Halt ε) α} {x : Work σ (Except (Halt ε) α)} {waits : List (Wait ε)}

protected theorem pure (r : Except (Halt ε) α) (w : World σ) :
    (Pure.pure r : Work σ (Except (Halt ε) α)).Stops P w r w [] :=
  ⟨lasts_pure r w _, by simp⟩

theorem mono {P' : Happening → Prop} (h : x.Stops P w r w₁ waits) (hP : ∀ d, P d → P' d) :
    x.Stops P' w r w₁ waits :=
  ⟨h.lasts.mono hP, h.between⟩

/-- Work that takes no time may come first. -/
theorem behind {y : Work σ β} {f : β → Work σ (Except (Halt ε) α)} {b : β} (hy : y.Breaks P w b w₁)
    (hnow : w₁.now = w.now) (hf : (f b).Stops P w₁ r w₂ waits) :
    (y >>= f).Stops P w r w₂ waits where
  lasts := hy.bind_lasts hnow hf.lasts
  between := by simpa only [hnow] using hf.between

/-- Work behind other work which hands on the errors of a cut. -/
theorem bind {k : Except (Halt ε) α → Work σ (Except (Halt ε) β)} {r' : Except (Halt ε) β}
    {waits' : List (Wait ε)} (hx : x.Stops P w r w₁ waits)
    (hk : ∀ T, k (.error (.failed (Wait.errorAt waits T))) =
      Pure.pure (.error (.failed (Wait.errorAt waits T))))
    (hf : (k r).Stops P w₁ r' w₂ waits') : (x >>= k).Stops P w r' w₂ (waits ++ waits') where
  lasts := by
    refine hx.lasts.bind hf.lasts (fun T w' hlt hle hrun => ?_) fun T hlt hle => ?_
    · have hlater : ∀ v ∈ waits', T ≤ v.start := fun v hv =>
        Nat.le_trans hle (hf.between v hv).1
      rw [run_bind_of_some hrun, hk, Wait.errorAt_append_of_le hlater]
      rfl
    · have hearlier : ∀ v ∈ waits, v.stop < T := fun v hv =>
        Nat.lt_of_le_of_lt (hx.between v hv).2 hlt
      rw [Wait.errorAt_append_of_lt hearlier]
  between v hv := by
    have hle := hx.lasts.now_le
    have hle' := hf.lasts.now_le
    rcases List.mem_append.1 hv with hv | hv
    · have := hx.between v hv
      omega
    · have := hf.between v hv
      omega

/-- Work behind an attempt. If the attempt is cut the whole is broken off. -/
theorem afterAttempt {y : Work σ (Option (Except ε α))}
    {k : Option (Except ε α) → Work σ (Except (Halt ε) β)} {a : Except ε α}
    {r' : Except (Halt ε) β} (hy : y.Lasts P w (some a) w₁ fun _ => some none)
    (hk : k none = Pure.pure (.error (.failed Failure.cancelled)))
    (hf : (k (some a)).Stops P w₁ r' w₂ waits) : (y >>= k).Stops P w r' w₂ waits where
  lasts := by
    refine hy.bind hf.lasts (fun T w' hlt hle hrun => ?_) fun T hlt hle => rfl
    have hlater : ∀ v ∈ waits, T ≤ v.start := fun v hv => Nat.le_trans hle (hf.between v hv).1
    rw [run_bind_of_some hrun, hk, Wait.errorAt_of_le hlater]
    rfl
  between v hv := by
    have hle := hy.now_le
    have hv := hf.between v hv
    omega

/-- Work behind which errors are only reworded. -/
theorem mapError {φ : ε → ε'} (hx : x.Stops P w r w₁ waits)
    (hφ : φ Failure.cancelled = Failure.cancelled) :
    (x >>= fun r => Pure.pure (r.mapError (Halt.map φ))).Stops P w (r.mapError (Halt.map φ)) w₁
      (waits.map (Wait.map φ)) where
  lasts := by
    refine hx.lasts.bind (lasts_pure _ _ fun _ => none) (fun T w' _ _ hrun => ?_)
      fun T hlt hle => absurd hlt (by omega)
    rw [run_bind_of_some hrun, Wait.errorAt_map hφ]
    rfl
  between := by simpa [Wait.map] using hx.between

end Stops

variable {P : Happening → Prop}

omit [Failure ε] in
/-- An attempt that is cut is told from one that comes to its end. -/
theorem lasts_attempt {act : Work σ (Except ε α)} {w w' : World σ} {r : Except ε α}
    (h : act.Breaks P w r w') : (attempt act).Lasts P w (some r) w' fun _ => some none := by
  refine (breaks_isCut w).bind_lasts rfl ?_
  refine ⟨fun cut hcut => ?_, h.now_le, h.journal, fun T hlt hle => ?_⟩
  · simp [h.run_eq cut hcut]
  · obtain ⟨w'', hrun, hjournal⟩ := h.run_cut T hlt hle
    exact ⟨w'', by simp [hrun], hjournal⟩

/-- Behind a failed attempt comes a wait, and a cut during it leads to the error of that attempt. -/
theorem stops_afterWait {policy : RetryPolicy} {what : String} {e : ε} {n : Nat}
    (hlog : ∀ line, P (.log line)) {w w' : World σ} {r : Except (Halt ε) α}
    {more : Work σ (Except (Halt ε) α)} {rest : List (Wait ε)}
    (h : more.Stops P (afterWait policy what e n w) r w' rest) :
    (do
      log (retryLine policy what e n)
      if ← waited (policy.wait n) then more else return .error (.failed e)).Stops P w r w'
        (⟨w.now, w.now + policy.wait n, e⟩ :: rest) := by
  refine .behind (breaks_note (hlog _) w) rfl ⟨?_, ?_⟩
  · refine Lasts.bind (lasts_waited _ _) h.lasts (fun T w'' hlt hle hrun => ?_) fun T hlt hle => ?_
    · rw [run_bind_of_some hrun, Wait.errorAt_cons_of_spans ⟨hlt, hle⟩]
      rfl
    · have hearlier : ∀ v ∈ [(⟨w.now, w.now + policy.wait n, e⟩ : Wait ε)], v.stop < T := by
        simpa using hlt
      rw [← Wait.errorAt_append_of_lt hearlier rest]
      rfl
  · have hle : w.now + policy.wait n ≤ w'.now := h.lasts.now_le
    intro v hv
    rcases List.mem_cons.1 hv with rfl | hv
    · exact ⟨Nat.le_refl _, hle⟩
    · have hv : w.now + policy.wait n ≤ v.start ∧ v.stop ≤ w'.now := h.between v hv
      exact ⟨Nat.le_trans (Nat.le_add_right _ _) hv.1, hv.2⟩

/-- Repeated work goes on until its end or until a cut. A cut during an attempt makes it fail as
broken off, a cut during a wait with the error of the attempt before. -/
theorem stops_retryingFrom (hlog : ∀ line, P (.log line)) (policy : RetryPolicy) (what : String)
    {act : Work σ (Except ε α)} (hact : ∀ w, ∃ r w', act.Breaks P w r w') (left n : Nat)
    (w : World σ) :
    ∃ r w', (retryingFrom policy what act left n).Stops P w r w'
      (waits policy what act left n w) := by
  induction left generalizing n w with
  | zero =>
      obtain ⟨r, w', h⟩ := hact w
      exact ⟨r.mapError .failed, w', .afterAttempt (lasts_attempt h) rfl (.pure _ _)⟩
  | succ left ih =>
      obtain ⟨r, w', h⟩ := hact w
      have hattempt := lasts_attempt h
      rw [waits, h.run_none]
      cases r with
      | ok a => exact ⟨.ok a, w', .afterAttempt hattempt rfl (.pure _ _)⟩
      | error e =>
          dsimp only
          cases htransient : Failure.isTransient e with
          | false =>
              refine ⟨.error (.failed e), w', .afterAttempt hattempt rfl ?_⟩
              simp only [htransient, Bool.not_false, if_true]
              exact .pure _ _
          | true =>
              rcases policy.repetition?_cases n with hnone | hsome
              · refine ⟨.error .overflow, w', .afterAttempt hattempt rfl ?_⟩
                simp only [htransient, hnone, Bool.not_true, Bool.false_eq_true, if_false]
                exact .pure _ _
              · obtain ⟨r, w'', hmore⟩ := ih (n + 1) (afterWait policy what e n w')
                refine ⟨r, w'', .afterAttempt hattempt rfl ?_⟩
                simp only [htransient, hsome, Bool.not_true, Bool.false_eq_true, if_false]
                exact stops_afterWait hlog hmore

/-- Repeated work does not start when the cut has come already. -/
theorem run_retryingFrom_of_le (policy : RetryPolicy) (what : String) (act : Work σ (Except ε α))
    (left n : Nat) {T : Nat} {w : World σ} (hT : T ≤ w.now) :
    (retryingFrom policy what act left n).run (some T) w =
      (some (.error (.failed Failure.cancelled)), w) := by
  have hcut : (isCut : Work σ Bool).run (some T) w = (some true, w) := by simp [isCut, run, hT]
  have hattempt : (attempt act).run (some T) w = (some none, w) := by
    rw [attempt, run_bind_of_some hcut]
    rfl
  exact run_retryingFrom_cut hattempt

/-- The error of a wait is the one of the attempt that ends where the wait starts. -/
theorem exists_attempt_of_mem_waits {policy : RetryPolicy} {what : String}
    {act : Work σ (Except ε α)} {left n : Nat} {w : World σ} {v : Wait ε}
    (h : v ∈ waits policy what act left n w) :
    Failure.isTransient v.error = true ∧
      ∃ w' w'', act.run none w' = (some (.error v.error), w'') ∧ v.start = w''.now := by
  induction left generalizing n w with
  | zero => cases h
  | succ left ih =>
      rw [waits] at h
      split at h
      · next e w' hrun =>
        split at h
        · next hmore =>
          rcases List.mem_cons.1 h with rfl | h
          · exact ⟨(Bool.and_eq_true_iff.1 hmore).1, w, w', hrun, rfl⟩
          · exact ih h
        · cases h
      · cases h

end Work

end ImageSync
