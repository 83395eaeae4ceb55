import ImageSync.Access
import ImageSync.Image

/-!
# Plans

A plan lists the images to copy, in batches that share one access to their source.

## Main definitions

* `Batch`: images with their access.
* `Plan`: batches, none of them empty.
* `Plan.add`, `Plan.addAll`: more batches; an empty one is left out.
* `Plan.images`: all images in order.
-/

namespace ImageSync

/-- Images that share one access to their source. -/
structure Batch where
  images : List Image
  access : Access
  /-- The directory that was searched for them, if one was. -/
  base : Option Path := none
deriving DecidableEq, Repr

/-- The images to copy. -/
structure Plan where
  batches : List Batch := []
  images_ne_nil : ∀ b ∈ batches, b.images ≠ [] := by simp

namespace Plan

/-- The plan without any image. -/
def empty : Plan := {}

/-- The plan with one batch more at its end; an empty batch is left out. -/
def add (p : Plan) (b : Batch) : Plan :=
  if h : b.images = [] then p
  else
    ⟨p.batches ++ [b], fun c hc => by
      rcases List.mem_append.1 hc with hc | hc
      · exact p.images_ne_nil c hc
      · rw [List.mem_singleton.1 hc]; exact h⟩

/-- The plan with more batches at its end; empty ones are left out. -/
def addAll (p : Plan) (bs : List Batch) : Plan := bs.foldl add p

/-- The number of batches. -/
def size (p : Plan) : Nat := p.batches.length

/-- Whether there is nothing to copy. -/
def isEmpty (p : Plan) : Bool := p.batches.isEmpty

/-- All images in order. -/
def images (p : Plan) : List Image := p.batches.flatMap Batch.images

/-- The number of images. -/
def imageCount (p : Plan) : Nat := p.batches.foldr (fun b n => b.images.length + n) 0

@[simp] theorem batches_empty : empty.batches = [] := rfl

theorem batches_add (p : Plan) (b : Batch) :
    (p.add b).batches = if b.images = [] then p.batches else p.batches ++ [b] := by
  unfold add
  split <;> simp [*]

theorem batches_addAll (p : Plan) (bs : List Batch) :
    (p.addAll bs).batches = p.batches ++ bs.filter fun b => b.images ≠ [] := by
  induction bs generalizing p with
  | nil => simp [addAll]
  | cons b bs ih =>
    have : p.addAll (b :: bs) = (p.add b).addAll bs := rfl
    rw [this, ih, batches_add]
    by_cases h : b.images = [] <;> simp [h]

theorem imageCount_eq_length_images (p : Plan) : p.imageCount = p.images.length := by
  unfold imageCount images
  induction p.batches with
  | nil => rfl
  | cons b bs ih => rw [List.foldr_cons, ih, List.flatMap_cons, List.length_append]

end Plan

end ImageSync
