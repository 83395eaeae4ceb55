import ImageSync.Proofs.Run.Slots

/-!
# Copies happen in the order of the plan

A run that is not cut works on the images of its plan one after the other. Each image gets one round:
its place is made ready, the copy is announced, one job is attempted a limited number of times, and
the last attempt succeeds. The first image whose round fails ends the run, and nothing is done about
those behind it.

## Main definitions

* `Round`: the copy of one image, with its job and the number of attempts.
* `Account`: what a run of a plan records for its result.

## Main statements

* `Plan.execute_in_order`: every run that is not cut gives such an account.
-/

namespace ImageSync

variable {σ : Type}

/-! ## Rounds -/

/-- The copy of one image of a plan: its job, and how often that was attempted. -/
structure Round where
  slot : Slot
  job : CopyJob
  attempts : Nat

namespace Round

/-- What the job of a round has to be: the image of its slot, at the place that is named after it,
with the access of its batch and that of the options. The policy limits the attempts. -/
structure Serves (destination : String) (options : RunOptions) (r : Round) : Prop where
  source : r.job.source = r.slot.image
  target : ∃ tree, (Destination.prepare tree (r.slot.location destination options)
    options.destinationTransport).1 = .ok r.job.destination
  sourceAccess : r.job.sourceAccess = r.slot.batch.access
  destinationAccess : r.job.destinationAccess = options.destinationAccess
  copyOptions : r.job.options = options.copy
  attempts_pos : 1 ≤ r.attempts
  attempts_le : r.attempts ≤ options.retry.retries.toNat + 1

/-- The announcement of a copy. -/
def announcement (r : Round) : Event :=
  .copying r.slot.number r.slot.batch.images.length r.job.source.text r.job.destination.text

/-- What comes before the first attempt. -/
def opening (destination : String) (options : RunOptions) (r : Round) : List Happening :=
  [.preparing (r.slot.location destination options), .event r.announcement]

/-- The attempts of a round. -/
def tries (r : Round) : List Happening := List.replicate r.attempts (.attempt r.job)

/-- What happens in a round that succeeds. -/
def deeds (destination : String) (options : RunOptions) (r : Round) : List Happening :=
  r.opening destination options ++ r.tries ++ [.copied r.job]

end Round

/-- How the copy of an image can fail, with what happens then and the error of the run: its place
cannot be made ready, or the last attempt fails, or another one cannot be announced. -/
inductive Slot.Fails (destination : String) (options : RunOptions) (slot : Slot) :
    Halt SyncError → List Happening → Prop
  | unplaced (tree : FileTree) (e : SyncError)
      (h : (Destination.prepare tree (slot.location destination options)
        options.destinationTransport).1 = .error e) :
      slot.Fails destination options (.failed e) [.preparing (slot.location destination options)]
  | uncopied (r : Round) (cause : Halt CopyError) (hslot : r.slot = slot)
      (h : r.Serves destination options) :
      slot.Fails destination options (cause.map r.job.failure)
        (r.opening destination options ++ r.tries)

/-- What a run of a plan records, log lines apart. Either each image has its round, in order, and the
end is reported behind them; or an image fails, and each image before it has its round. -/
inductive Account (destination : String) (options : RunOptions) (plan : Plan) :
    Except (Halt SyncError) Summary → List Happening → Prop
  | completed (rounds : List Round) (hslots : rounds.map Round.slot = plan.slots)
      (hserves : ∀ r ∈ rounds, r.Serves destination options) :
      Account destination options plan (.ok ⟨plan.imageCount, plan.size⟩)
        (rounds.flatMap (Round.deeds destination options) ++
          [.event (.finished plan.imageCount plan.size)])
  | stopped (rounds : List Round) (slot : Slot) (left : List Slot) (e : Halt SyncError)
      (last : List Happening) (hslots : plan.slots = rounds.map Round.slot ++ slot :: left)
      (hserves : ∀ r ∈ rounds, r.Serves destination options)
      (hfails : slot.Fails destination options e last) :
      Account destination options plan (.error e)
        (rounds.flatMap (Round.deeds destination options) ++ last)

/-! ## One copy -/

/-- One copy is a round that succeeds, or fails in one of the two ways. -/
theorem Slot.run_copy (slot : Slot) (s : Services σ) (destination : String) (options : RunOptions)
    (w : World σ) :
    (∃ (r : Round) (w' : World σ),
      (slot.copy s destination options).run none w = (some (.ok ()), w') ∧
      r.slot = slot ∧ r.Serves destination options ∧ w.Grows w' (r.deeds destination options)) ∨
    ∃ e last w', (slot.copy s destination options).run none w = (some (.error e), w') ∧
      slot.Fails destination options e last ∧ w.Grows w' last := by
  have hplaced : w.Grows (slot.placed destination options w)
      [.preparing (slot.location destination options)] := .of_note rfl rfl
  cases htarget : (Destination.prepare w.tree (slot.location destination options)
      options.destinationTransport).1 with
  | error e =>
      exact .inr ⟨_, _, _, slot.run_copy_of_error s htarget, .unplaced w.tree e htarget, hplaced⟩
  | ok target =>
      obtain ⟨w', attempts, hpos, hle, hcopy⟩ := run_copyWithRetry s options (slot.job options target)
        (slot.announced target (slot.placed destination options w))
      let r : Round := ⟨slot, slot.job options target, attempts⟩
      have hserves : r.Serves destination options :=
        ⟨rfl, ⟨w.tree, htarget⟩, rfl, rfl, rfl, hpos, hle⟩
      have hopening : w.Grows (slot.announced target (slot.placed destination options w))
          (r.opening destination options) := hplaced.trans (.of_note rfl rfl)
      rw [slot.run_copy_of_ok s htarget]
      rcases hcopy with ⟨hrun, hgrows⟩ | ⟨cause, hrun, hgrows⟩
      · refine .inl ⟨r, w', hrun, rfl, hserves, ?_⟩
        rw [Round.deeds, List.append_assoc]
        exact hopening.trans hgrows
      · exact .inr ⟨_, _, w', hrun, .uncopied r cause rfl hserves, hopening.trans hgrows⟩

/-! ## A whole run -/

/-- The jobs that were attempted. -/
def attempted (ds : List Happening) : List CopyJob :=
  ds.filterMap fun
    | .attempt job => some job
    | _ => none

/-- The jobs that succeeded. -/
def copied (ds : List Happening) : List CopyJob :=
  ds.filterMap fun
    | .copied job => some job
    | _ => none

/-- The events that were reported. -/
def reported (ds : List Happening) : List Event :=
  ds.filterMap fun
    | .event e => some e
    | _ => none

theorem attempted_append (a b : List Happening) :
    attempted (a ++ b) = attempted a ++ attempted b := List.filterMap_append ..

theorem copied_append (a b : List Happening) : copied (a ++ b) = copied a ++ copied b :=
  List.filterMap_append ..

theorem reported_append (a b : List Happening) : reported (a ++ b) = reported a ++ reported b :=
  List.filterMap_append ..

namespace Round

variable (destination : String) (options : RunOptions)

theorem attempted_deeds (r : Round) :
    attempted (r.deeds destination options) = List.replicate r.attempts r.job := by
  simp [attempted, deeds, opening, tries]

theorem copied_deeds (r : Round) : copied (r.deeds destination options) = [r.job] := by
  simp [copied, deeds, opening, tries]

theorem reported_deeds (r : Round) : reported (r.deeds destination options) = [r.announcement] := by
  simp [reported, deeds, opening, tries]

theorem copied_flatMap_deeds (rounds : List Round) :
    copied (rounds.flatMap (deeds destination options)) = rounds.map Round.job := by
  induction rounds with
  | nil => rfl
  | cons r rest ih =>
      rw [List.flatMap_cons, copied_append, ih, copied_deeds]
      rfl

theorem reported_flatMap_deeds (rounds : List Round) :
    reported (rounds.flatMap (deeds destination options)) = rounds.map Round.announcement := by
  induction rounds with
  | nil => rfl
  | cons r rest ih =>
      rw [List.flatMap_cons, reported_append, ih, reported_deeds]
      rfl

variable {destination options}

/-- The jobs of rounds copy the images of their slots. -/
theorem map_source_job {rounds : List Round} (h : ∀ r ∈ rounds, r.Serves destination options) :
    (rounds.map Round.job).map CopyJob.source = (rounds.map Round.slot).map Slot.image := by
  rw [List.map_map, List.map_map]
  exact List.map_congr_left fun r hr => (h r hr).source

/-- The images of attempts, each as often as its round attempted it. -/
theorem map_source_attempted {rounds : List Round} (h : ∀ r ∈ rounds, r.Serves destination options) :
    (attempted (rounds.flatMap (deeds destination options))).map CopyJob.source =
      (((rounds.map Round.slot).map Slot.image).zip (rounds.map Round.attempts)).flatMap
        fun p => List.replicate p.2 p.1 := by
  induction rounds with
  | nil => rfl
  | cons r rest ih =>
      have hr : r.job.source = r.slot.image := (h r List.mem_cons_self).source
      rw [List.flatMap_cons, attempted_append, List.map_append, attempted_deeds,
        ih fun r' hr' => h r' (List.mem_cons_of_mem r hr')]
      simp [hr]

end Round

/-- What the failing image leaves behind: no success, and attempts and an announcement of its own
only. -/
theorem Slot.Fails.deeds_eq {destination : String} {options : RunOptions} {slot : Slot}
    {e : Halt SyncError} {last : List Happening} (h : slot.Fails destination options e last) :
    copied last = [] ∧
      (∃ n ≤ options.retry.retries.toNat + 1,
        (attempted last).map CopyJob.source = List.replicate n slot.image) ∧
      (reported last).length ≤ 1 ∧
      ∀ event ∈ reported last, ∃ target,
        event = .copying slot.number slot.batch.images.length slot.image.text target := by
  cases h with
  | unplaced tree e h => exact ⟨rfl, ⟨0, Nat.zero_le _, rfl⟩, Nat.zero_le 1, by simp [reported]⟩
  | uncopied r cause hslot h =>
      subst hslot
      refine ⟨?_, ?_, ?_, ?_⟩
      · simp [copied, Round.opening, Round.tries]
      · refine ⟨r.attempts, h.attempts_le, ?_⟩
        simp [attempted, Round.opening, Round.tries, h.source]
      · simp [reported, Round.opening, Round.tries]
      · intro event hevent
        have hevent : event = r.announcement := by
          simpa [reported, Round.opening, Round.tries, List.filterMap_replicate] using hevent
        exact ⟨r.job.destination.text, by rw [hevent, Round.announcement, h.source]⟩

/-- The copies of a plan give every image its round, or stop at the first that fails. -/
theorem Plan.run_executeBatches (plan : Plan) (s : Services σ) (destination : String)
    (options : RunOptions) (w : World σ) :
    Reaches plan.slots
      (fun done w' => ∃ rounds : List Round, rounds.map Round.slot = done ∧
        (∀ r ∈ rounds, r.Serves destination options) ∧
        w.Grows w' (rounds.flatMap (Round.deeds destination options)))
      (fun done slot e w' => ∃ (rounds : List Round) (last : List Happening),
        rounds.map Round.slot = done ∧ (∀ r ∈ rounds, r.Serves destination options) ∧
        slot.Fails destination options e last ∧
        w.Grows w' (rounds.flatMap (Round.deeds destination options) ++ last))
      plan.slots ((executeBatches s destination options plan.batches).run none w) := by
  refine plan.executeBatches_induction ?_ ?_ rfl w ⟨[], rfl, by simp, .of_journal_eq rfl⟩
  · rintro done slot left w₁ - ⟨rounds, hslots, hserves, hgrows⟩
    rcases slot.run_copy s destination options w₁ with
      ⟨r, w₂, hrun, hslot, hr, hround⟩ | ⟨e, last, w₂, hrun, hfails, hlast⟩
    · refine .inl ⟨w₂, hrun, rounds ++ [r], by simp [hslots, hslot], ?_, ?_⟩
      · intro r' hr'
        rcases List.mem_append.1 hr' with hr' | hr'
        · exact hserves r' hr'
        · rwa [List.mem_singleton.1 hr']
      · simpa using hgrows.trans hround
    · exact .inr ⟨e, w₂, hrun, rounds, last, hslots, hserves, hfails, hgrows.trans hlast⟩
  · rintro done w₁ line ⟨rounds, hslots, hserves, hgrows⟩
    refine ⟨rounds, hslots, hserves, ?_⟩
    rw [← List.append_nil (rounds.flatMap _)]
    exact hgrows.trans (.of_logs w₁.now [line] rfl)

/-- A run that is not cut leaves an account of its plan in the journal. If it ends well, the report
of the end is the last thing there. -/
theorem Plan.execute_account (plan : Plan) (s : Services σ) (destination : String)
    (options : RunOptions) (w : World σ)
    (hcompatible : areCompatible options.sourceTransport options.destinationTransport = true) :
    ∃ (result : Except (Halt SyncError) Summary) (w' : World σ) (happened : List (Nat × Happening)),
      (plan.execute s destination options).run none w = (some result, w') ∧
      w'.journal = w.journal ++ happened ∧
      Account destination options plan result (deeds happened) ∧
      ∀ summary, result = .ok summary →
        (happened.map Prod.snd).getLast? = some (.event (.finished plan.imageCount plan.size)) := by
  rw [execute, if_pos hcompatible]
  rcases plan.run_executeBatches s destination options w with
    ⟨w₁, hrun, rounds, hslots, hserves, journal, hjournal, hdeeds⟩ |
      ⟨done, slot, left, e, w₁, hall, hrun, rounds, last, hslots, hserves, hfails,
        journal, hjournal, hdeeds⟩
  · let finish : Nat × Happening := (w₁.now, .event (.finished plan.imageCount plan.size))
    refine ⟨.ok ⟨plan.imageCount, plan.size⟩, { w₁ with journal := w₁.journal ++ [finish] },
      journal ++ [finish], ?_, ?_, ?_, ?_⟩
    · rw [Work.run_bind_of_some hrun]
      rfl
    · simp [hjournal]
    · rw [deeds_append, hdeeds]
      exact .completed rounds hslots hserves
    · intro summary _
      simp [finish]
  · refine ⟨.error e, w₁, journal, ?_, hjournal, ?_, ?_⟩
    · rw [Work.run_bind_of_some hrun]
      rfl
    · rw [hdeeds]
      exact .stopped rounds slot left e last (by rw [hall, hslots]) hserves hfails
    · intro summary hsummary
      cases hsummary

namespace Account

variable {destination : String} {options : RunOptions} {plan : Plan} {ds : List Happening}

/-- The account of a run that ended well: each image was attempted and copied in its turn, announced,
and the end was reported once. -/
theorem of_ok {summary : Summary} (h : Account destination options plan (.ok summary) ds) :
    summary = ⟨plan.imageCount, plan.size⟩ ∧
    (copied ds).map CopyJob.source = plan.images ∧
    (∃ counts : List Nat, counts.length = plan.imageCount ∧
      (∀ n ∈ counts, n ≤ options.retry.retries.toNat + 1) ∧
      (attempted ds).map CopyJob.source =
        (plan.images.zip counts).flatMap fun p => List.replicate p.2 p.1) ∧
    ∃ announcements : List Event, announcements.length = plan.imageCount ∧
      (∀ images sources, .finished images sources ∉ announcements) ∧
      reported ds = announcements ++ [.finished plan.imageCount plan.size] := by
  cases h with
  | completed rounds hslots hserves =>
      have hcount : rounds.length = plan.imageCount := by
        rw [← plan.length_slots, ← hslots, List.length_map]
      refine ⟨rfl, ?_, ⟨rounds.map Round.attempts, ?_, ?_, ?_⟩,
        rounds.map Round.announcement, ?_, ?_, ?_⟩
      · rw [copied_append, Round.copied_flatMap_deeds, List.map_append,
          Round.map_source_job hserves, hslots, plan.map_image_slots]
        exact List.append_nil _
      · rw [List.length_map, hcount]
      · intro n hn
        obtain ⟨r, hr, rfl⟩ := List.mem_map.1 hn
        exact (hserves r hr).attempts_le
      · rw [attempted_append, List.map_append, Round.map_source_attempted hserves, hslots,
          plan.map_image_slots]
        exact List.append_nil _
      · rw [List.length_map, hcount]
      · simp [Round.announcement]
      · rw [reported_append, Round.reported_flatMap_deeds]
        rfl

/-- The account of a run that failed: the images before one position were copied, that position may
have been attempted and announced, and none behind it was. -/
theorem of_error {e : Halt SyncError} (h : Account destination options plan (.error e) ds) :
    ∃ k, k < plan.imageCount ∧
      (copied ds).map CopyJob.source = plan.images.take k ∧
      (∃ counts : List Nat, counts.length = k + 1 ∧
        (∀ n ∈ counts, n ≤ options.retry.retries.toNat + 1) ∧
        (attempted ds).map CopyJob.source =
          (plan.images.zip counts).flatMap fun p => List.replicate p.2 p.1) ∧
      (reported ds).length ≤ k + 1 ∧
      ∀ images sources, .finished images sources ∉ reported ds := by
  cases h with
  | stopped rounds slot left e last hslots hserves hfails =>
      obtain ⟨hcopied, ⟨n, hn, hattempted⟩, hlength, hreported⟩ := hfails.deeds_eq
      have himages : plan.images =
          (rounds.map Round.slot).map Slot.image ++ slot.image :: left.map Slot.image := by
        rw [← plan.map_image_slots, hslots, List.map_append, List.map_cons]
      have hk : ((rounds.map Round.slot).map Slot.image).length = rounds.length := by simp
      refine ⟨rounds.length, ?_, ?_, ⟨rounds.map Round.attempts ++ [n], by simp, ?_, ?_⟩, ?_, ?_⟩
      · rw [plan.imageCount_eq_length_images, himages, List.length_append, hk, List.length_cons]
        omega
      · rw [copied_append, Round.copied_flatMap_deeds, hcopied, List.append_nil,
          Round.map_source_job hserves, himages, ← hk, List.take_left]
      · intro m hm
        rcases List.mem_append.1 hm with hm | hm
        · obtain ⟨r, hr, rfl⟩ := List.mem_map.1 hm
          exact (hserves r hr).attempts_le
        · rwa [List.mem_singleton.1 hm]
      · rw [attempted_append, List.map_append, Round.map_source_attempted hserves, hattempted,
          himages, List.zip_append (by rw [hk, List.length_map])]
        simp
      · rw [reported_append, Round.reported_flatMap_deeds, List.length_append, List.length_map]
        omega
      · intro images sources hfinished
        rw [reported_append, Round.reported_flatMap_deeds] at hfinished
        rcases List.mem_append.1 hfinished with hfinished | hfinished
        · simp [Round.announcement] at hfinished
        · obtain ⟨target, htarget⟩ := hreported _ hfinished
          cases htarget

end Account

/-- A run of a plan that is not cut works through its images in order. If it ends well, each image,
by its position in the plan, was copied exactly once, the summary counts images and batches, and the
end was reported once and last. If not, the images before one position were copied, and nothing
happened about those behind it. -/
theorem Plan.execute_in_order (plan : Plan) (s : Services σ) (destination : String)
    (options : RunOptions) (w : World σ)
    (hcompatible : areCompatible options.sourceTransport options.destinationTransport = true) :
    ∃ (result : Except (Halt SyncError) Summary) (w' : World σ) (happened : List (Nat × Happening)),
      (plan.execute s destination options).run none w = (some result, w') ∧
      w'.journal = w.journal ++ happened ∧
      Account destination options plan result (deeds happened) ∧
      (∀ summary, result = .ok summary →
        summary = ⟨plan.imageCount, plan.size⟩ ∧
        (copied (deeds happened)).map CopyJob.source = plan.images ∧
        (∃ counts : List Nat, counts.length = plan.imageCount ∧
          (∀ n ∈ counts, n ≤ options.retry.retries.toNat + 1) ∧
          (attempted (deeds happened)).map CopyJob.source =
            (plan.images.zip counts).flatMap fun p => List.replicate p.2 p.1) ∧
        (∃ announcements : List Event, announcements.length = plan.imageCount ∧
          (∀ images sources, .finished images sources ∉ announcements) ∧
          reported (deeds happened) =
            announcements ++ [.finished plan.imageCount plan.size]) ∧
        (happened.map Prod.snd).getLast? = some (.event (.finished plan.imageCount plan.size))) ∧
      (∀ e, result = .error e → ∃ k, k < plan.imageCount ∧
        (copied (deeds happened)).map CopyJob.source = plan.images.take k ∧
        (∃ counts : List Nat, counts.length = k + 1 ∧
          (∀ n ∈ counts, n ≤ options.retry.retries.toNat + 1) ∧
          (attempted (deeds happened)).map CopyJob.source =
            (plan.images.zip counts).flatMap fun p => List.replicate p.2 p.1) ∧
        (reported (deeds happened)).length ≤ k + 1 ∧
        ∀ images sources, .finished images sources ∉ reported (deeds happened)) := by
  obtain ⟨result, w', happened, hrun, hjournal, haccount, hlast⟩ :=
    plan.execute_account s destination options w hcompatible
  refine ⟨result, w', happened, hrun, hjournal, haccount, ?_, ?_⟩
  · rintro summary rfl
    obtain ⟨hsummary, hcopied, hcounts, hreported⟩ := haccount.of_ok
    exact ⟨hsummary, hcopied, hcounts, hreported, hlast summary rfl⟩
  · rintro e rfl
    exact haccount.of_error

namespace StoppingRun

/-- An image of the repository `quay.io/team`. -/
def image (tag : String) : Image := .inRegistry ⟨"quay.io", "team", some tag, none⟩

/-- Two images, the second of which can never be copied. -/
def plan : Plan := ⟨[{ images := [image "a", image "b"], access := {} }], by simp⟩

/-- Services that copy every image but one. -/
def services : Services Unit where
  listTags := fun _ _ _ state => ({ result := .ok [] }, state)
  copy := fun job tree state =>
    (if job.source = image "b" then { result := .error (.failed "refused" false) }
      else { result := .ok () }, tree, state)
  pattern := fun _ => .error "no pattern"

def options : RunOptions where
  sourceTransport := .registry
  destinationTransport := .registry
  isScoped := true

def world : World Unit := { now := 0, tree := .empty, journal := [], services := () }

end StoppingRun

/-- A run that stops at the second of two images has copied the first and nothing else. -/
theorem Plan.execute_in_order_stopping :
    areCompatible StoppingRun.options.sourceTransport
      StoppingRun.options.destinationTransport = true ∧
    ∃ (e : Halt SyncError) (w' : World Unit) (happened : List (Nat × Happening)),
      (StoppingRun.plan.execute StoppingRun.services "mirror.example" StoppingRun.options).run none
        StoppingRun.world = (some (.error e), w') ∧
      Account "mirror.example" StoppingRun.options StoppingRun.plan (.error e) (deeds happened) ∧
      (copied (deeds happened)).map CopyJob.source = StoppingRun.plan.images.take 1 := by
  refine ⟨rfl, ?_⟩
  obtain ⟨result, w', happened, hrun, hjournal, haccount, -, herror⟩ :=
    StoppingRun.plan.execute_in_order StoppingRun.services "mirror.example" StoppingRun.options
      StoppingRun.world rfl
  have hfails : ((StoppingRun.plan.execute StoppingRun.services "mirror.example"
      StoppingRun.options).run none StoppingRun.world).1.map Except.toOption = some none := by
    decide +kernel
  have hcopied : (copied (deeds ((StoppingRun.plan.execute StoppingRun.services "mirror.example"
      StoppingRun.options).run none StoppingRun.world).2.journal)).length = 1 := by
    decide +kernel
  cases result with
  | ok summary => simp [hrun, Except.toOption] at hfails
  | error e =>
      obtain ⟨k, hk, himages, -⟩ := herror e rfl
      have hjournal : w'.journal = happened := by rw [hjournal]; rfl
      have hone : k = 1 := by
        have hlength := congrArg List.length himages
        rw [hrun] at hcopied
        rw [List.length_map, ← hjournal, hcopied, List.length_take,
          ← Plan.imageCount_eq_length_images] at hlength
        omega
      exact ⟨e, w', happened, hrun, haccount, by rw [himages, hone]⟩

end ImageSync
