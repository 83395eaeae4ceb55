import ImageSync.Proofs.Run.Uncut

/-!
# The images of a plan, one after the other

A run has two nested loops, over the batches of a plan and over the images of each. Here they become
one: a plan is a list of slots, each an image with its batch and its number there, and what one copy
preserves a whole run preserves.

## Main definitions

* `Slot`, `Plan.slots`: the images of a plan in order.
* `Slot.copy`: the copy of one image.
* `executeBatches_induction`: induction along a run.
-/

namespace ImageSync

variable {σ : Type}

/-- An image of a plan, with its batch and its number there. -/
structure Slot where
  batch : Batch
  number : Nat
  image : Image

namespace Slot

/-- Where the copy of an image is to go. -/
def location (slot : Slot) (destination : String) (options : RunOptions) : String :=
  Destination.join destination (Destination.nameOf slot.image slot.batch.base options.isScoped)

/-- The job that copies an image to a target. -/
def job (slot : Slot) (options : RunOptions) (target : Image) : CopyJob where
  source := slot.image
  destination := target
  sourceAccess := slot.batch.access
  destinationAccess := options.destinationAccess
  options := options.copy

/-- The copy of one image. -/
def copy (slot : Slot) (s : Services σ) (destination : String) (options : RunOptions) :
    Work σ (Except (Halt SyncError) Unit) :=
  copyNext s destination options slot.batch slot.batch.images.length slot.number slot.image

/-- The world in which the place of an image has been made ready. -/
def placed (slot : Slot) (destination : String) (options : RunOptions) (w : World σ) : World σ :=
  { w with
    tree := (Destination.prepare w.tree (slot.location destination options)
      options.destinationTransport).2
    journal := w.journal ++ [(w.now, .preparing (slot.location destination options))] }

/-- The world in which the copy of an image has been announced. -/
def announced (slot : Slot) (target : Image) (w : World σ) : World σ :=
  { w with journal := w.journal ++ [(w.now, .event
      (.copying slot.number slot.batch.images.length slot.image.text target.text))] }

variable {slot : Slot} {destination : String} {options : RunOptions} {w : World σ}

/-- An image whose place cannot be made ready is not copied. -/
theorem run_copy_of_error (s : Services σ) {e : SyncError}
    (h : (Destination.prepare w.tree (slot.location destination options)
      options.destinationTransport).1 = .error e) :
    (slot.copy s destination options).run none w =
      (some (.error (.failed e)), slot.placed destination options w) := by
  have hprepare : (prepareDestination destination options slot.batch.base slot.image).run none w =
      (some (.error e), slot.placed destination options w) := by
    rw [← h]
    rfl
  rw [copy, copyNext, Work.run_bind_of_some (Work.run_isCut_none w), if_neg Bool.false_ne_true,
    Work.run_bind_of_some hprepare]
  rfl

/-- An image whose place is ready is announced and then copied. -/
theorem run_copy_of_ok (s : Services σ) {target : Image}
    (h : (Destination.prepare w.tree (slot.location destination options)
      options.destinationTransport).1 = .ok target) :
    (slot.copy s destination options).run none w =
      (copyWithRetry s options (slot.job options target)).run none
        (slot.announced target (slot.placed destination options w)) := by
  have hprepare : (prepareDestination destination options slot.batch.base slot.image).run none w =
      (some (.ok target), slot.placed destination options w) := by
    rw [← h]
    rfl
  rw [copy, copyNext, Work.run_bind_of_some (Work.run_isCut_none w), if_neg Bool.false_ne_true,
    Work.run_bind_of_some hprepare]
  rfl

end Slot

/-- The slots of images of a batch of which the first has the given number. -/
def Batch.slotsFrom (batch : Batch) : Nat → List Image → List Slot
  | _, [] => []
  | number, image :: rest => ⟨batch, number, image⟩ :: batch.slotsFrom (number + 1) rest

/-- The slots of a batch. -/
def Batch.slots (batch : Batch) : List Slot := batch.slotsFrom 1 batch.images

/-- The slots of a plan. -/
def Plan.slots (plan : Plan) : List Slot := plan.batches.flatMap Batch.slots

theorem Batch.map_image_slotsFrom (batch : Batch) (number : Nat) (images : List Image) :
    (batch.slotsFrom number images).map Slot.image = images := by
  induction images generalizing number with
  | nil => rfl
  | cons image rest ih => simp [slotsFrom, ih]

/-- The slots of a plan hold its images in order. -/
theorem Plan.map_image_slots (plan : Plan) : plan.slots.map Slot.image = plan.images := by
  simp only [slots, images, List.map_flatMap]
  congr 1
  funext batch
  exact batch.map_image_slotsFrom 1 batch.images

theorem Plan.length_slots (plan : Plan) : plan.slots.length = plan.imageCount := by
  rw [plan.imageCount_eq_length_images, ← plan.map_image_slots, List.length_map]

/-! ## Induction along a run -/

section Induction

variable {s : Services σ} {destination : String} {options : RunOptions} {all : List Slot}
  {P : List Slot → World σ → Prop} {Q : List Slot → Slot → Halt SyncError → World σ → Prop}

/-- What work on slots of the list `all` has led to: `P` if all of `goal` is done, else `Q` at the
slot that stopped it. -/
def Reaches (all : List Slot) (P : List Slot → World σ → Prop)
    (Q : List Slot → Slot → Halt SyncError → World σ → Prop) (goal : List Slot)
    (outcome : Option (Except (Halt SyncError) Unit) × World σ) : Prop :=
  (∃ w, outcome = (some (.ok ()), w) ∧ P goal w) ∨
    ∃ done slot left e w, all = done ++ slot :: left ∧ outcome = (some (.error e), w) ∧
      Q done slot e w

variable (hstep : ∀ done slot left w, all = done ++ slot :: left → P done w →
  (∃ w', (slot.copy s destination options).run none w = (some (.ok ()), w') ∧
      P (done ++ [slot]) w') ∨
    ∃ e w', (slot.copy s destination options).run none w = (some (.error e), w') ∧
      Q done slot e w')
include hstep

/-- The inner loop: what each copy preserves, the copies of the rest of a batch preserve. -/
theorem copyImages_reaches (batch : Batch) (images : List Image) (number : Nat)
    (done left : List Slot) (w : World σ) (hall : all = done ++ batch.slotsFrom number images ++ left)
    (hP : P done w) :
    Reaches all P Q (done ++ batch.slotsFrom number images)
      ((copyImages s destination options batch batch.images.length number images).run none w) := by
  induction images generalizing number done w with
  | nil => exact .inl ⟨w, rfl, by simpa [Batch.slotsFrom] using hP⟩
  | cons image rest ih =>
      let slot : Slot := ⟨batch, number, image⟩
      have hsplit : all = done ++ slot :: (batch.slotsFrom (number + 1) rest ++ left) := by
        simpa [Batch.slotsFrom] using hall
      rcases hstep done slot _ w hsplit hP with ⟨w', hrun, hP'⟩ | ⟨e, w', hrun, hQ⟩
      · simp only [Slot.copy, slot] at hrun
        rw [copyImages, Work.run_bind_of_some hrun]
        have := ih (number + 1) (done ++ [slot]) w' (by simpa using hsplit) hP'
        simpa [Batch.slotsFrom, slot] using this
      · refine .inr ⟨done, slot, _, e, w', hsplit, ?_, hQ⟩
        simp only [Slot.copy, slot] at hrun
        rw [copyImages, Work.run_bind_of_some hrun]
        rfl

variable (hlog : ∀ done w line,
  P done w → P done { w with journal := w.journal ++ [(w.now, .log line)] })
include hlog

/-- The outer loop. The line that ends a batch is the only other thing that happens. -/
theorem executeBatches_reaches (batches : List Batch) (done : List Slot) (w : World σ)
    (hall : all = done ++ batches.flatMap Batch.slots) (hP : P done w) :
    Reaches all P Q all ((executeBatches s destination options batches).run none w) := by
  induction batches generalizing done w with
  | nil => exact .inl ⟨w, rfl, by simpa [hall] using hP⟩
  | cons batch rest ih =>
      have hsplit : all = done ++ batch.slotsFrom 1 batch.images ++ rest.flatMap Batch.slots := by
        simpa [Batch.slots] using hall
      rcases copyImages_reaches hstep batch batch.images 1 done _ w hsplit hP with
        ⟨w', hrun, hP'⟩ | ⟨done', slot, left, e, w', hstop, hrun, hQ⟩
      · have hbatch : (batch.execute s destination options).run none w =
            (some (.ok ()), { w' with journal := w'.journal ++
              [(w'.now, .log (.withValues .info "Descriptor synced"
                [("count", toString batch.images.length)]))] }) := by
          rw [Batch.execute, Work.run_bind_of_some hrun]
          rfl
        rw [executeBatches, Work.run_bind_of_some hbatch]
        exact ih _ _ hsplit (hlog _ _ _ hP')
      · have hbatch : (batch.execute s destination options).run none w =
            (some (.error e), w') := by
          rw [Batch.execute, Work.run_bind_of_some hrun]
          rfl
        refine .inr ⟨done', slot, left, e, w', hstop, ?_, hQ⟩
        rw [executeBatches, Work.run_bind_of_some hbatch]
        rfl

/-- Induction along a run: what each copy preserves, all copies of a plan preserve. -/
theorem Plan.executeBatches_induction (plan : Plan) (hplan : all = plan.slots) (w : World σ)
    (hP : P [] w) :
    Reaches all P Q all ((executeBatches s destination options plan.batches).run none w) :=
  executeBatches_reaches hstep hlog plan.batches [] w (by simpa [Plan.slots] using hplan) hP

end Induction

end ImageSync
