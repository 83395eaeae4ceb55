import ImageSync.Proofs.Plan.Cut
import ImageSync.Proofs.Run.Order

/-!
# Runs that are cut

A cut run is the run without a cut up to the instant of the cut. What was copied until then are the
first images of the plan. The run fails as broken off, unless the cut falls into a wait: then it fails
with the error of the attempt before that wait.

## Main definitions

* `Services.waits`: the waits of a run, those of the planning and those of each copy in order.
* `Services.planned`: the images of the plan that a run makes.

## Main statements

* `Services.run_until_cut`: a run and the same run with a cut.
-/

namespace ImageSync

variable {σ ε α β : Type}

/-! ## What comes behind work that ends well -/

/-- A list that goes on from the end of work that is not cut, if that work ends well. -/
def Work.afterOk (x : Work σ (Except ε α)) (w : World σ) (next : α → World σ → List β) : List β :=
  match x.run none w with
  | (some (.ok a), w') => next a w'
  | _ => []

theorem Work.mem_afterOk {x : Work σ (Except ε α)} {w : World σ} {next : α → World σ → List β}
    {b : β} (h : b ∈ x.afterOk w next) :
    ∃ a w', x.run none w = (some (.ok a), w') ∧ b ∈ next a w' := by
  unfold afterOk at h
  split at h
  · exact ⟨_, _, by assumption, h⟩
  · cases h

namespace Work.Stops

variable [Failure ε] {P : Happening → Prop} {x : Work σ (Except (Halt ε) α)} {w w₁ w₂ : World σ}
  {r : Except (Halt ε) α} {waits : List (Wait ε)}

theorem afterOk_of_ok {a : α} (h : x.Stops P w (.ok a) w₁ waits) (next : α → World σ → List β) :
    x.afterOk w next = next a w₁ := by
  simp [afterOk, h.lasts.run_none]

theorem afterOk_of_error {e : Halt ε} (h : x.Stops P w (.error e) w₁ waits)
    (next : α → World σ → List β) : x.afterOk w next = [] := by
  simp [afterOk, h.lasts.run_none]

/-- Work behind other work that hands on every error. -/
theorem andThen {k : Except (Halt ε) α → Work σ (Except (Halt ε) β)}
    {next : α → World σ → List (Wait ε)} (hx : x.Stops P w r w₁ waits) (hk : ∀ e, k (.error e) = pure (.error e))
    (hf : ∀ a, ∃ r' w₂, (k (.ok a)).Stops P w₁ r' w₂ (next a w₁)) :
    ∃ r' w₂, (x >>= k).Stops P w r' w₂ (waits ++ x.afterOk w next) := by
  cases r with
  | ok a =>
      obtain ⟨r', w₂, hf⟩ := hf a
      rw [hx.afterOk_of_ok]
      exact ⟨r', w₂, hx.bind (fun _ => hk _) hf⟩
  | error e =>
      rw [hx.afterOk_of_error]
      exact ⟨.error e, w₁, hx.bind (fun _ => hk _) (hk e ▸ .pure _ _)⟩

end Work.Stops

/-! ## Copies -/

/-- A copy takes its time and is cut during it. Its success is recorded behind its end. -/
theorem Services.breaks_copyImage (s : Services σ) (job : CopyJob) (w : World σ) :
    ∃ r w', (s.copyImage job).Breaks (fun _ => True) w r w' := by
  let started : World σ := { w with journal := w.journal ++ [(w.now, .attempt job)] }
  have hstarted : (Work.note (.attempt job)).Breaks (fun _ => True) w () started :=
    Work.breaks_note trivial w
  have hanswer : ∀ (reply : Reply CopyError Unit) (tree : FileTree) (services : σ), ∃ r w',
      (do
        Work.setWorld { started with services := services }
        Work.logAll reply.notes
        Work.pause reply.takes
        let w ← Work.world
        Work.setWorld { w with tree := tree }
        if reply.result.isOk then Work.note (.copied job)
        return reply.result : Work σ _).Breaks (fun _ => True) started r w' := by
    intro reply tree services
    have hset : (Work.setWorld { started with services := services }).Breaks (fun _ => True)
      started () { started with services := services } := Work.breaks_setWorld rfl rfl
    have hend : ∀ w₁ : World σ, ∃ r w₂,
        (do
          Work.setWorld { w₁ with tree := tree }
          if reply.result.isOk then Work.note (.copied job)
          return reply.result : Work σ _).Breaks (fun _ => True) w₁ r w₂ := by
      intro w₁
      have hset : (Work.setWorld { w₁ with tree := tree }).Breaks (fun _ => True) w₁ ()
        { w₁ with tree := tree } := Work.breaks_setWorld rfl rfl
      by_cases hok : reply.result.isOk = true
      · simp only [hok, if_true]
        exact ⟨_, _, hset.bind <| (Work.breaks_note trivial _).bind (Work.lasts_pure _ _ _)⟩
      · simp only [hok]
        exact ⟨_, _, hset.bind (Work.lasts_pure _ _ _)⟩
    obtain ⟨r, w', hend⟩ := hend _
    exact ⟨r, w', hset.bind <| (Work.breaks_logAll (fun _ => trivial) _ _).bind <|
      (Work.breaks_pause _ _).bind <| (Work.breaks_world _).bind hend⟩
  obtain ⟨r, w', hrest⟩ := hanswer (s.copy job w.tree w.services).1
    (s.copy job w.tree w.services).2.1 (s.copy job w.tree w.services).2.2
  exact ⟨r, w', hstarted.bind ((Work.breaks_world started).bind hrest)⟩

/-- The waits between the attempts at a job. -/
def CopyJob.waits (job : CopyJob) (s : Services σ) (options : RunOptions) (w : World σ) :
    List (Wait SyncError) :=
  (Work.waits options.retry ("Copying " ++ job.source.text) (s.copyImage job)
    options.retry.retries.toNat 0 w).map (Wait.map job.failure)

theorem stops_copyWithRetry (s : Services σ) (options : RunOptions) (job : CopyJob) (w : World σ) :
    ∃ r w', (copyWithRetry s options job).Stops (fun _ => True) w r w' (job.waits s options w) := by
  obtain ⟨r, w', h⟩ := Work.stops_retryingFrom (P := fun _ => True) (fun _ => trivial)
    options.retry ("Copying " ++ job.source.text) (s.breaks_copyImage job)
    options.retry.retries.toNat 0 w
  exact ⟨_, w', h.mapError rfl⟩

namespace Slot

/-- The waits between the attempts at the copy of an image. There are none if its place cannot be
made ready. -/
def waits (slot : Slot) (s : Services σ) (destination : String) (options : RunOptions)
    (w : World σ) : List (Wait SyncError) :=
  match (Destination.prepare w.tree (slot.location destination options)
      options.destinationTransport).1 with
  | .error _ => []
  | .ok target =>
    (slot.job options target).waits s options
      (slot.announced target (slot.placed destination options w))

theorem stops_copy (slot : Slot) (s : Services σ) (destination : String) (options : RunOptions)
    (w : World σ) :
    ∃ r w', (slot.copy s destination options).Stops (fun _ => True) w r w'
      (slot.waits s destination options w) := by
  have hprepare : (prepareDestination destination options slot.batch.base slot.image).Breaks
      (fun _ => True) w (Destination.prepare w.tree (slot.location destination options)
        options.destinationTransport).1 (slot.placed destination options w) :=
    .of_instant (fun _ _ => rfl) rfl (.of_note rfl ⟨trivial, rfl⟩)
  unfold waits
  cases htarget : (Destination.prepare w.tree (slot.location destination options)
      options.destinationTransport).1 with
  | error e =>
      rw [htarget] at hprepare
      exact ⟨.error (.failed e), _, .behind (Work.breaks_isCut w) rfl
        (.behind hprepare rfl (.pure (.error (.failed e)) _))⟩
  | ok target =>
      rw [htarget] at hprepare
      obtain ⟨r, w', hcopy⟩ := stops_copyWithRetry s options (slot.job options target)
        (slot.announced target (slot.placed destination options w))
      exact ⟨r, w', .behind (Work.breaks_isCut w) rfl
        (.behind hprepare rfl (.behind (Work.breaks_note trivial _) rfl hcopy))⟩

end Slot

/-! ## Batches -/

section Batches

variable (s : Services σ) (destination : String) (options : RunOptions)

/-- The waits during the copies of images of a batch of which the first has the given number. -/
def Batch.waitsFrom (batch : Batch) : Nat → List Image → World σ → List (Wait SyncError)
  | _, [], _ => []
  | number, image :: rest, w =>
    let slot : Slot := ⟨batch, number, image⟩
    slot.waits s destination options w ++ (slot.copy s destination options).afterOk w fun _ w' =>
      batch.waitsFrom (number + 1) rest w'

/-- The waits during the copies of the images of batches. -/
def waitsOfBatches : List Batch → World σ → List (Wait SyncError)
  | [], _ => []
  | batch :: rest, w =>
    batch.waitsFrom s destination options 1 batch.images w ++
      (batch.execute s destination options).afterOk w fun _ w' => waitsOfBatches rest w'

theorem stops_copyImages (batch : Batch) (number : Nat) (images : List Image) (w : World σ) :
    ∃ r w', (copyImages s destination options batch batch.images.length number images).Stops
      (fun _ => True) w r w' (batch.waitsFrom s destination options number images w) := by
  induction images generalizing number w with
  | nil => exact ⟨.ok (), w, .pure _ _⟩
  | cons image rest ih =>
      let slot : Slot := ⟨batch, number, image⟩
      obtain ⟨r, w₁, hslot⟩ := slot.stops_copy s destination options w
      exact hslot.andThen (fun _ => rfl) fun _ => ih (number + 1) w₁

theorem Batch.stops_execute (batch : Batch) (w : World σ) :
    ∃ r w', (batch.execute s destination options).Stops (fun _ => True) w r w'
      (batch.waitsFrom s destination options 1 batch.images w) := by
  obtain ⟨r, w₁, himages⟩ := stops_copyImages s destination options batch 1 batch.images w
  rw [← List.append_nil (batch.waitsFrom s destination options 1 batch.images w)]
  cases r with
  | ok a =>
      exact ⟨.ok (), _, himages.bind (fun _ => rfl)
        (.behind (Work.breaks_note trivial w₁) rfl (.pure (.ok ()) _))⟩
  | error e => exact ⟨.error e, w₁, himages.bind (fun _ => rfl) (.pure (.error e) w₁)⟩

theorem stops_executeBatches (batches : List Batch) (w : World σ) :
    ∃ r w', (executeBatches s destination options batches).Stops (fun _ => True) w r w'
      (waitsOfBatches s destination options batches w) := by
  induction batches generalizing w with
  | nil => exact ⟨.ok (), w, .pure _ _⟩
  | cons batch rest ih =>
      obtain ⟨r, w₁, hbatch⟩ := batch.stops_execute s destination options w
      exact hbatch.andThen (fun _ => rfl) fun _ => ih w₁

theorem Plan.stops_execute (plan : Plan) (w : World σ)
    (hcompatible : areCompatible options.sourceTransport options.destinationTransport = true) :
    ∃ r w', (plan.execute s destination options).Stops (fun _ => True) w r w'
      (waitsOfBatches s destination options plan.batches w) := by
  rw [execute, if_pos hcompatible]
  obtain ⟨r, w₁, hbatches⟩ := stops_executeBatches s destination options plan.batches w
  rw [← List.append_nil (waitsOfBatches s destination options plan.batches w)]
  cases r with
  | ok a =>
      exact ⟨_, _, hbatches.bind (fun _ => rfl)
        (.behind (Work.breaks_note trivial w₁) rfl (.pure (.ok _) _))⟩
  | error e => exact ⟨.error e, w₁, hbatches.bind (fun _ => rfl) (.pure (.error e) w₁)⟩

end Batches

/-! ## What comes before a wait -/

/-- A wait that comes behind an attempt to plan a source, which failed at a listing. -/
def Wait.IsBehindPlanning (v : Wait SyncError) (s : Services σ) (source : String)
    (options : RunOptions) : Prop :=
  ∃ w w' repository cause,
    (Plan.resolve s options.sourceAccess source options.sourceTransport).run none w =
      (some (.error v.error), w') ∧
    v.start = w'.now ∧ v.error = .listing repository cause

/-- A wait that comes behind a failed attempt to copy an image. -/
def Wait.IsBehindCopy (v : Wait SyncError) (s : Services σ) (image : Image) : Prop :=
  ∃ job w w' cause, job.source = image ∧ (s.copyImage job).run none w = (some (.error cause), w') ∧
    v.start = w'.now ∧ v.error = .copying image.text cause

theorem CopyJob.isBehindCopy_of_mem_waits {s : Services σ} {options : RunOptions} {job : CopyJob}
    {w : World σ} {v : Wait SyncError} (h : v ∈ job.waits s options w) :
    v.IsBehindCopy s job.source := by
  obtain ⟨u, hu, rfl⟩ := List.mem_map.1 h
  obtain ⟨htransient, w₁, w₂, hrun, hstart⟩ := Work.exists_attempt_of_mem_waits hu
  refine ⟨job, w₁, w₂, u.error, rfl, hrun, hstart, ?_⟩
  cases hcause : u.error with
  | cancelled => simp [hcause, Failure.isTransient, CopyError.isTransient] at htransient
  | _ => simp [Wait.map, CopyJob.failure, hcause]

theorem Slot.isBehindCopy_of_mem_waits {slot : Slot} {s : Services σ} {destination : String}
    {options : RunOptions} {w : World σ} {v : Wait SyncError}
    (h : v ∈ slot.waits s destination options w) : v.IsBehindCopy s slot.image := by
  unfold waits at h
  split at h
  · cases h
  · exact CopyJob.isBehindCopy_of_mem_waits h

theorem Batch.isBehindCopy_of_mem_waitsFrom {batch : Batch} {s : Services σ} {destination : String}
    {options : RunOptions} {number : Nat} {images : List Image} {w : World σ} {v : Wait SyncError}
    (h : v ∈ batch.waitsFrom s destination options number images w) :
    ∃ image ∈ images, v.IsBehindCopy s image := by
  induction images generalizing number w with
  | nil => cases h
  | cons image rest ih =>
      rcases List.mem_append.1 h with h | h
      · exact ⟨image, List.mem_cons_self, Slot.isBehindCopy_of_mem_waits h⟩
      · obtain ⟨-, w', -, h⟩ := Work.mem_afterOk h
        obtain ⟨image', himage', hv⟩ := ih h
        exact ⟨image', List.mem_cons_of_mem image himage', hv⟩

theorem isBehindCopy_of_mem_waitsOfBatches {s : Services σ} {destination : String}
    {options : RunOptions} {batches : List Batch} {w : World σ} {v : Wait SyncError}
    (h : v ∈ waitsOfBatches s destination options batches w) :
    ∃ image ∈ batches.flatMap Batch.images, v.IsBehindCopy s image := by
  induction batches generalizing w with
  | nil => cases h
  | cons batch rest ih =>
      rw [List.flatMap_cons]
      rcases List.mem_append.1 h with h | h
      · obtain ⟨image, himage, hv⟩ := Batch.isBehindCopy_of_mem_waitsFrom h
        exact ⟨image, List.mem_append_left _ himage, hv⟩
      · obtain ⟨-, w', -, h⟩ := Work.mem_afterOk h
        obtain ⟨image, himage, hv⟩ := ih h
        exact ⟨image, List.mem_append_right _ himage, hv⟩

/-! ## Whole runs -/

namespace Services

variable (s : Services σ) (source destination : String) (options : RunOptions) (w : World σ)

/-- The waits between the attempts to plan a source. -/
def planWaits : List (Wait SyncError) :=
  Work.waits options.retry "Planning sync"
    (Plan.resolve s options.sourceAccess source options.sourceTransport)
    options.retry.retries.toNat 0 w

/-- The waits while the images of the plan are copied. -/
def copyWaits : List (Wait SyncError) :=
  (s.plan source options).afterOk w fun plan w' =>
    waitsOfBatches s destination options plan.batches w'

/-- The waits of a run. -/
def waits : List (Wait SyncError) :=
  s.planWaits source options w ++ s.copyWaits source destination options w

/-- The images of the plan that a run makes. -/
def planned : List Image := (s.plan source options).afterOk w fun plan _ => plan.images

theorem isBehindPlanning_of_mem_planWaits {v : Wait SyncError}
    (h : v ∈ s.planWaits source options w) : v.IsBehindPlanning s source options := by
  obtain ⟨htransient, w₁, w₂, hrun, hstart⟩ := Work.exists_attempt_of_mem_waits h
  obtain ⟨r, w₃, hbreaks, hpassing⟩ := Plan.breakable_resolve s options.sourceAccess source
    options.sourceTransport w₁
  have hr : r = .error v.error := by
    have heq := hbreaks.run_none.symm.trans hrun
    simpa using congrArg Prod.fst heq
  obtain ⟨repository, cause, herror⟩ := hpassing v.error hr htransient
  exact ⟨w₁, w₂, repository, cause, hrun, hstart, herror⟩

theorem isBehindCopy_of_mem_copyWaits {v : Wait SyncError}
    (h : v ∈ s.copyWaits source destination options w) :
    ∃ image ∈ s.planned source options w, v.IsBehindCopy s image := by
  obtain ⟨plan, w', hplan, h⟩ := Work.mem_afterOk h
  obtain ⟨image, himage, hv⟩ := isBehindCopy_of_mem_waitsOfBatches h
  refine ⟨image, ?_, hv⟩
  rw [planned, Work.afterOk, hplan]
  exact himage

theorem stops_plan : ∃ r w', (s.plan source options).Stops Happening.IsPlanning w r w'
    (s.planWaits source options w) := by
  refine Work.stops_retryingFrom (fun _ => trivial) options.retry "Planning sync"
    (fun w₀ => ?_) options.retry.retries.toNat 0 w
  obtain ⟨r, w', hbreaks, -⟩ := Plan.breakable_resolve s options.sourceAccess source
    options.sourceTransport w₀
  exact ⟨r, w', hbreaks⟩

variable (hcompatible : areCompatible options.sourceTransport options.destinationTransport = true)
include hcompatible

theorem stops_run : ∃ r w', (s.run source destination options).Stops (fun _ => True) w r w'
    (s.waits source destination options w) := by
  obtain ⟨r, w₁, hplan⟩ := s.stops_plan source options w
  rw [run, if_pos hcompatible]
  exact (hplan.mono fun _ _ => trivial).andThen (fun _ => rfl) fun plan =>
    plan.stops_execute s destination options w₁ hcompatible

/-- A run that is cut before its start does nothing. -/
theorem run_of_cut_le {T : Nat} (hT : T ≤ w.now) :
    (s.run source destination options).run (some T) w = (some (.error (.failed .cancelled)), w) := by
  have hplan : (s.plan source options).run (some T) w = (some (.error (.failed .cancelled)), w) :=
    Work.run_retryingFrom_of_le _ _ _ _ _ hT
  rw [run, if_pos hcompatible, Work.run_bind_of_some hplan]
  rfl

/-- Without a cut the first images of the plan are copied, and all of them if the run ends well. -/
theorem copied_run : ∃ whole w₁ happened,
    (s.run source destination options).run none w = (some whole, w₁) ∧
    w₁.journal = w.journal ++ happened ∧
    (copied (deeds happened)).map CopyJob.source <+: s.planned source options w ∧
    ∀ summary, whole = .ok summary → summary.images = (s.planned source options w).length ∧
      (copied (deeds happened)).map CopyJob.source = s.planned source options w := by
  obtain ⟨r, w₁, hplan⟩ := s.stops_plan source options w
  obtain ⟨planning, hplanning, hkind⟩ := hplan.lasts.journal
  have hnone : copied (deeds planning) = [] := by
    refine List.filterMap_eq_nil_iff.2 fun h hh => ?_
    obtain ⟨hh, -⟩ := List.mem_filter.1 hh
    obtain ⟨p, hp, rfl⟩ := List.mem_map.1 hh
    have hp := (hkind p hp).1
    cases hp' : p.2 <;> simp_all [Happening.IsPlanning]
  rw [run, if_pos hcompatible, Work.run_bind_of_some hplan.lasts.run_none]
  cases r with
  | error e =>
      refine ⟨.error e, w₁, planning, rfl, hplanning, ?_, nofun⟩
      rw [hnone]
      exact List.nil_prefix
  | ok plan =>
      have hplanned : s.planned source options w = plan.images := hplan.afterOk_of_ok _
      obtain ⟨whole, w₂, executing, hexecute, hexecuting, haccount, -⟩ :=
        plan.execute_account s destination options w₁ hcompatible
      have hcopied : copied (deeds (planning ++ executing)) = copied (deeds executing) := by
        rw [deeds_append, copied_append, hnone, List.nil_append]
      refine ⟨whole, w₂, planning ++ executing, hexecute, ?_, ?_⟩
      · rw [hexecuting, hplanning, List.append_assoc]
      · rw [hcopied, hplanned]
        cases whole with
        | ok summary =>
            obtain ⟨hsummary, himages, -⟩ := haccount.of_ok
            refine ⟨himages ▸ List.prefix_refl _, fun summary' h => ?_⟩
            cases h
            exact ⟨by rw [hsummary, plan.imageCount_eq_length_images], himages⟩
        | error e =>
            obtain ⟨k, -, himages, -⟩ := haccount.of_error
            exact ⟨himages ▸ List.take_prefix k _, nofun⟩

omit hcompatible in
/-- A cut that falls into a wait leads to the error of the attempt before, any other to that of
broken-off work. -/
theorem errorAt_waits (T : Nat) :
    (∃ v ∈ s.planWaits source options w, v.Spans T ∧ v.IsBehindPlanning s source options ∧
        Wait.errorAt (s.waits source destination options w) T = v.error) ∨
      (∃ v ∈ s.copyWaits source destination options w, v.Spans T ∧
        (∃ image ∈ s.planned source options w, v.IsBehindCopy s image) ∧
        Wait.errorAt (s.waits source destination options w) T = v.error) ∨
      (∀ v ∈ s.waits source destination options w, ¬v.Spans T) ∧
        Wait.errorAt (s.waits source destination options w) T = .cancelled := by
  rcases Wait.errorAt_cases (s.waits source destination options w) T with
    ⟨v, hv, hspans, herror⟩ | hnone
  · rcases List.mem_append.1 hv with hv | hv
    · exact .inl ⟨v, hv, hspans, s.isBehindPlanning_of_mem_planWaits source options w hv, herror⟩
    · exact .inr (.inl ⟨v, hv, hspans,
        s.isBehindCopy_of_mem_copyWaits source destination options w hv, herror⟩)
  · exact .inr (.inr hnone)

/-- A cut at or before the end of a run stops it, with what happened before. -/
theorem run_of_le_end {T : Nat} {whole : Except (Halt SyncError) Summary} {w₁ : World σ}
    (hwhole : (s.run source destination options).run none w = (some whole, w₁)) (hT : T ≤ w₁.now) :
    ∃ w', (s.run source destination options).run (some T) w =
        (some (.error (.failed (Wait.errorAt (s.waits source destination options w) T))), w') ∧
      w.Continues w' (fun h => h.1 < T) ∧ w'.Continues w₁ fun h => T ≤ h.1 := by
  obtain ⟨r, w₂, hstops⟩ := s.stops_run source destination options w hcompatible
  obtain ⟨-, rfl⟩ := Prod.mk.inj (hwhole.symm.trans hstops.lasts.run_none)
  by_cases hstart : T ≤ w.now
  · refine ⟨w, ?_, .of_journal_eq rfl, hstops.lasts.journal.mono fun h hh =>
      Nat.le_trans hstart hh.2.1⟩
    have hlater : ∀ v ∈ s.waits source destination options w, T ≤ v.start := fun v hv =>
      Nat.le_trans hstart (hstops.between v hv).1
    rw [Wait.errorAt_of_le hlater]
    exact s.run_of_cut_le source destination options w hcompatible hstart
  · exact hstops.lasts.run_cut T (Nat.lt_of_not_le hstart) hT

/-- A run with any cut is the run without one, or it fails with what happened before the cut. -/
theorem run_cut_or {whole : Except (Halt SyncError) Summary} {w₁ : World σ}
    (hwhole : (s.run source destination options).run none w = (some whole, w₁))
    (cut : Option Nat) :
    (s.run source destination options).run cut w = (some whole, w₁) ∨
      ∃ T w', (s.run source destination options).run cut w =
          (some (.error (.failed (Wait.errorAt (s.waits source destination options w) T))), w') ∧
        w.Continues w' (fun h => h.1 < T) ∧ w'.Continues w₁ fun h => T ≤ h.1 := by
  cases cut with
  | none => exact .inl hwhole
  | some T =>
      by_cases hT : T ≤ w₁.now
      · exact .inr ⟨T, s.run_of_le_end source destination options w hcompatible hwhole hT⟩
      · obtain ⟨r, w₂, hstops⟩ := s.stops_run source destination options w hcompatible
        obtain ⟨-, rfl⟩ := Prod.mk.inj (hwhole.symm.trans hstops.lasts.run_none)
        refine .inl ?_
        rw [hstops.lasts.run_some (Nat.lt_of_not_le hT), ← hstops.lasts.run_none, hwhole]

omit hcompatible in
/-- A run and the same run with a cut at `T`. The cut run does what the other does before `T`, in the
same order, and nothing from `T` on; what it has copied are the first images of the plan, and all of
them if it ends well. If the cut comes at the end of the other run or later, the two are the same.
Before that the run fails as broken off, unless `T` falls into a wait: then it fails with the error of
the attempt before that wait, at a listing while it plans and at an image while it copies. -/
theorem run_until_cut (T : Nat) :
    ∃ (whole result : Except (Halt SyncError) Summary) (w₁ w' : World σ)
      (happened missed : List (Nat × Happening)),
      (s.run source destination options).run none w = (some whole, w₁) ∧
      (s.run source destination options).run (some T) w = (some result, w') ∧
      w'.journal = w.journal ++ happened ∧ w₁.journal = w'.journal ++ missed ∧
      (∀ h ∈ missed, T ≤ h.1) ∧
      (∀ h ∈ happened, h.1 < T) ∧
      (copied (deeds happened)).map CopyJob.source <+: s.planned source options w ∧
      (∀ summary, result = .ok summary → summary.images = (s.planned source options w).length ∧
        (copied (deeds happened)).map CopyJob.source = s.planned source options w) ∧
      (w₁.now < T ∨ areCompatible options.sourceTransport options.destinationTransport = false →
        result = whole ∧ w' = w₁) ∧
      (T ≤ w₁.now → areCompatible options.sourceTransport options.destinationTransport = true →
        (∃ v ∈ s.planWaits source options w, v.Spans T ∧ v.IsBehindPlanning s source options ∧
          result = .error (.failed v.error)) ∨
        (∃ v ∈ s.copyWaits source destination options w, v.Spans T ∧
          (∃ image ∈ s.planned source options w, v.IsBehindCopy s image) ∧
          result = .error (.failed v.error)) ∨
        (∀ v ∈ s.waits source destination options w, ¬v.Spans T) ∧
          result = .error (.failed .cancelled)) := by
  cases hcompatible : areCompatible options.sourceTransport options.destinationTransport with
  | false =>
      have hrun : ∀ cut, (s.run source destination options).run cut w =
          (some (.error (.failed .incompatible)), w) := fun cut => by
        rw [run, hcompatible]
        rfl
      exact ⟨_, _, w, w, [], [], hrun none, hrun (some T), by simp, by simp, by simp, by simp,
        List.nil_prefix, nofun, fun _ => ⟨rfl, rfl⟩, nofun⟩
  | true =>
      obtain ⟨whole, w₁, all, hwhole, hall, hprefix, hok⟩ :=
        s.copied_run source destination options w hcompatible
      by_cases hT : T ≤ w₁.now
      · obtain ⟨w', hcut, ⟨happened, hhappened, hearly⟩, missed, hmissed, hlate⟩ :=
          s.run_of_le_end source destination options w hcompatible hwhole hT
        have hsplit : all = happened ++ missed := by
          rw [hhappened, hall, List.append_assoc] at hmissed
          exact List.append_cancel_left hmissed
        have hfirst : (copied (deeds happened)).map CopyJob.source <+:
            (copied (deeds all)).map CopyJob.source := by
          rw [hsplit, deeds_append, copied_append, List.map_append]
          exact List.prefix_append _ _
        refine ⟨whole, _, w₁, w', happened, missed, hwhole, hcut, hhappened, hmissed, hlate, hearly,
          hfirst.trans hprefix, nofun, fun h => ?_, fun _ _ => ?_⟩
        · rcases h with h | h
          · omega
          · cases h
        · simpa only [Except.error.injEq, Halt.failed.injEq]
            using s.errorAt_waits source destination options w T
      · obtain ⟨r, w₂, hstops⟩ := s.stops_run source destination options w hcompatible
        obtain ⟨-, rfl⟩ := Prod.mk.inj (hwhole.symm.trans hstops.lasts.run_none)
        have hlater : w₁.now < T := Nat.lt_of_not_le hT
        have hcut : (s.run source destination options).run (some T) w = (some whole, w₁) := by
          rw [hstops.lasts.run_some hlater, ← hstops.lasts.run_none, hwhole]
        obtain ⟨happened, hhappened, hinside⟩ := hstops.lasts.journal
        obtain rfl : all = happened := List.append_cancel_left (hall.symm.trans hhappened)
        exact ⟨whole, whole, w₁, w₁, all, [], hwhole, hcut, hall, (List.append_nil _).symm, by simp,
          fun h hh => Nat.lt_of_le_of_lt (hinside h hh).2.2 hlater, hprefix, hok,
          fun _ => ⟨rfl, rfl⟩, fun h => absurd h hT⟩

end Services

end ImageSync
