import ImageSync.Plan.Resolve
import ImageSync.Proofs.Run.Cut

/-!
# Planning that is cut

A cut breaks off planning wherever it comes. Planning reports, asks for tags and writes log lines; it
makes no place ready and copies nothing. Of its errors only those of listings may be passing.

## Main definitions

* `Happening.IsPlanning`: what may happen while a source is planned.
* `Work.Breakable`: work of this kind that a cut breaks off in every world.

## Main statements

* `Plan.breakable_resolve`: the planning of a source.
-/

namespace ImageSync

variable {σ α β : Type}

/-- Whether something may happen while a source is planned. -/
def Happening.IsPlanning : Happening → Prop
  | event (.copying ..) => False
  | event (.finished ..) => False
  | event _ => True
  | log _ => True
  | listing .. => True
  | preparing _ => False
  | attempt _ => False
  | copied _ => False

/-- Planning work that a cut breaks off in every world, and of which every value has a property. -/
def Work.Breakable (x : Work σ α) (Q : α → Prop) : Prop :=
  ∀ w, ∃ a w', x.Breaks Happening.IsPlanning w a w' ∧ Q a

namespace Work.Breakable

variable {Q Q' : α → Prop} {R : β → Prop}

theorem pure {a : α} (h : Q a) : (Pure.pure a : Work σ α).Breakable Q :=
  fun w => ⟨a, w, lasts_pure a w _, h⟩

theorem bind {x : Work σ α} {f : α → Work σ β} (hx : x.Breakable Q)
    (hf : ∀ a, Q a → (f a).Breakable R) : (x >>= f).Breakable R := by
  intro w
  obtain ⟨a, w', hbreaks, ha⟩ := hx w
  obtain ⟨b, w'', hbreaks', hb⟩ := hf a ha w'
  exact ⟨b, w'', hbreaks.bind hbreaks', hb⟩

theorem report {e : Event} (h : (Happening.event e).IsPlanning) :
    (Work.report e : Work σ Unit).Breakable fun _ => True :=
  fun w => ⟨(), _, breaks_note h w, trivial⟩

theorem log (line : LogLine) : (Work.log line : Work σ Unit).Breakable fun _ => True :=
  fun w => ⟨(), _, breaks_note trivial w, trivial⟩

theorem world : (Work.world : Work σ (World σ)).Breakable fun _ => True :=
  fun w => ⟨w, w, breaks_world w, trivial⟩

/-- What is done first does not matter for the value. -/
theorem after {x : Work σ Unit} {y : Work σ α} (hx : x.Breakable fun _ => True)
    (hy : y.Breakable Q) : (do x; y).Breakable Q :=
  hx.bind fun _ _ => hy

end Work.Breakable

/-! ## Listings -/

/-- A listing takes its time and is cut during it. -/
theorem Services.breakable_list (s : Services σ) (access : Access) (repository : Reference) :
    (s.list access repository).Breakable fun _ => True := by
  intro w
  let asked : World σ := { w with journal := w.journal ++ [(w.now, .listing access repository)] }
  have hasked : (Work.note (.listing access repository)).Breaks Happening.IsPlanning w () asked :=
    Work.breaks_note trivial w
  have hanswer : ∀ (reply : Reply RegistryError (List String)) (services : σ), ∃ r w',
      (do
        Work.setWorld { asked with services := services }
        Work.logAll reply.notes
        Work.pause reply.takes
        return reply.result : Work σ _).Breaks Happening.IsPlanning asked r w' := by
    intro reply services
    have hset : (Work.setWorld { asked with services := services }).Breaks Happening.IsPlanning
      asked () { asked with services := services } := Work.breaks_setWorld rfl rfl
    exact ⟨_, _, hset.bind <| (Work.breaks_logAll (fun _ => trivial) _ _).bind <|
      (Work.breaks_pause _ _).bind (Work.lasts_pure _ _ _)⟩
  obtain ⟨r, w', hrest⟩ := hanswer (s.listTags w.tree access repository w.services).1
    (s.listTags w.tree access repository w.services).2
  exact ⟨r, w', hasked.bind ((Work.breaks_world asked).bind hrest), trivial⟩

/-- Whether an error of planning may go away by itself only if it is one of a listing. -/
def PassingIfListing {α : Type} (r : Except SyncError α) : Prop :=
  ∀ e, r = .error e → e.isTransient = true → ∃ repository cause, e = .listing repository cause

theorem passingIfListing_ok {α : Type} (a : α) : PassingIfListing (.ok a) := by
  rintro e ⟨⟩

theorem passingIfListing_of_lasting {α : Type} {e : SyncError} (h : e.isTransient = false) :
    PassingIfListing (.error e : Except SyncError α) := by
  rintro e' ⟨⟩ htransient
  rw [h] at htransient
  cases htransient

theorem breakable_taggedReferences (repository : Reference) (tags : List String) :
    (taggedReferences repository tags : Work σ _).Breakable PassingIfListing := by
  induction tags with
  | nil => exact .pure (passingIfListing_ok _)
  | cons tag tags ih =>
      rw [taggedReferences]
      cases repository.withTag tag with
      | error e => exact .after (.log _) (.pure (passingIfListing_of_lasting rfl))
      | ok r =>
          refine ih.bind fun result hresult => ?_
          cases result with
          | error e => exact .pure fun e' he => hresult e' (by cases he; rfl)
          | ok rs => exact .pure (passingIfListing_ok _)

theorem breakable_listImages (s : Services σ) (access : Access) (repository : Reference) :
    (listImages s access repository).Breakable PassingIfListing := by
  refine .after (.report trivial) ((s.breakable_list access repository).bind fun result _ => ?_)
  cases result with
  | ok tags => exact breakable_taggedReferences repository tags
  | error e =>
      dsimp only
      split
      · exact .after (.report trivial) (.pure (passingIfListing_ok _))
      · refine .pure ?_
        rintro e' ⟨⟩ -
        exact ⟨_, _, rfl⟩

/-! ## Catalogs -/

namespace Expansion

variable (s : Services σ) (access : Access) (registry repository : String)

theorem breakable_skip (reason : SkipReason) :
    (skip registry repository reason : Work σ (Option Batch)).Breakable fun _ => True :=
  .after (.report trivial) (.pure trivial)

theorem breakable_finish (parsed : Reference) (images : List Reference) :
    (finish registry repository parsed images access : Work σ _).Breakable fun _ => True := by
  unfold finish
  split
  · exact breakable_skip _ _ _
  · exact .after (.report trivial) (.pure trivial)

theorem breakable_declaredAll (parsed : Reference) (texts : List String) :
    (declaredAll registry repository parsed texts : Work σ _).Breakable fun _ => True := by
  induction texts with
  | nil => exact .pure trivial
  | cons text texts ih =>
      rw [declaredAll]
      cases declared parsed text with
      | ok r => exact ih.bind fun _ _ => .pure trivial
      | error e => exact .after (.report trivial) ih

theorem breakable_ofImages (texts : List String) :
    (ofImages s registry access repository texts).Breakable fun _ => True := by
  unfold ofImages
  cases Reference.parseRepository (registry ++ "/" ++ repository) with
  | error e => exact breakable_skip _ _ _
  | ok parsed =>
      dsimp only
      split
      · refine (breakable_listImages s access parsed).bind fun result _ => ?_
        cases result with
        | error e => exact breakable_skip _ _ _
        | ok images => exact breakable_finish _ _ _ _ _
      · exact (breakable_declaredAll _ _ _ _).bind fun _ _ => breakable_finish _ _ _ _ _

theorem breakable_ofPattern (text : String) :
    (ofPattern s registry access repository text).Breakable fun _ => True := by
  unfold ofPattern
  cases Reference.parseRepository (registry ++ "/" ++ repository) with
  | error e => exact breakable_skip _ _ _
  | ok parsed =>
      cases s.pattern text with
      | error e => exact breakable_skip _ _ _
      | ok accepts =>
          refine (breakable_listImages s access parsed).bind fun result _ => ?_
          cases result with
          | error e => exact breakable_skip _ _ _
          | ok images => exact .after (.report trivial) (breakable_finish _ _ _ _ _)

theorem breakable_collect {batchOf : String → α → Work σ (Option Batch)}
    (h : ∀ name a, (batchOf name a).Breakable fun _ => True) (l : List (String × α)) :
    (collect batchOf l).Breakable fun _ => True := by
  induction l with
  | nil => exact .pure trivial
  | cons p l ih => exact (h p.1 p.2).bind fun _ _ => ih.bind fun _ _ => .pure trivial

theorem breakable_ofEntries (base : Access) (plan : Plan)
    (entries : List (String × RegistryEntry)) :
    (ofEntries s base plan entries).Breakable fun _ => True := by
  induction entries generalizing plan with
  | nil => exact .pure trivial
  | cons p entries ih =>
      obtain ⟨registry, entry⟩ := p
      rw [ofEntries]
      split
      · exact .after (.report trivial) (ih plan)
      · let access := base.forEntry entry
        have hentry : (ofEntry s base registry entry).Breakable fun _ => True :=
          (breakable_collect (breakable_ofImages s access registry) _).bind fun _ _ =>
            (breakable_collect (breakable_ofPattern s access registry) _).bind fun _ _ =>
              .pure trivial
        exact hentry.bind fun batches _ => ih (plan.addAll batches)

end Expansion

/-! ## Sources -/

namespace Plan

variable (s : Services σ) (base : Access) (source : String)

theorem breakable_ofRegistry : (ofRegistry s base source).Breakable PassingIfListing := by
  unfold ofRegistry
  cases Reference.parse source with
  | error e => exact .pure (passingIfListing_of_lasting rfl)
  | ok named =>
      have hlisted : (if named.isRepository then listImages s base named
          else pure (.ok [named])).Breakable PassingIfListing := by
        split
        · exact breakable_listImages s base named
        · exact .pure (passingIfListing_ok _)
      refine .after (.report trivial) ?_
      dsimp only
      rw [← apply_ite fun listed => listed >>= _]
      refine hlisted.bind fun listed hpassing => ?_
      cases listed with
      | error e => exact .pure fun e' he => hpassing e' (by cases he; rfl)
      | ok references =>
          dsimp only
          split
          · exact .pure (passingIfListing_of_lasting rfl)
          · exact .pure (passingIfListing_ok _)

theorem searchFolder_lasting {tree : FileTree} {e : SyncError}
    (h : searchFolder tree source = .error e) : e.isTransient = false := by
  unfold searchFolder at h
  dsimp only at h
  split at h
  · cases h; rfl
  · split at h
    · cases h; rfl
    · split at h <;> cases h
      rfl

theorem breakable_ofFolder : (ofFolder base source : Work σ _).Breakable PassingIfListing := by
  refine Work.Breakable.world.bind fun w _ => ?_
  cases hsearch : searchFolder w.tree source with
  | error e => exact .pure (passingIfListing_of_lasting (searchFolder_lasting source hsearch))
  | ok found =>
      obtain ⟨root, found⟩ := found
      dsimp only
      cases found.mapM (Image.ofFolder w.tree) with
      | error e => exact .pure (passingIfListing_of_lasting rfl)
      | ok images =>
          dsimp only
          split
          · exact .pure (passingIfListing_of_lasting rfl)
          · exact .after (.log _) (.pure (passingIfListing_ok _))

theorem breakable_ofCatalog : (ofCatalog s base source).Breakable PassingIfListing := by
  refine Work.Breakable.world.bind fun w _ => ?_
  cases Catalog.load w.tree source with
  | error e => exact .pure (passingIfListing_of_lasting rfl)
  | ok catalog =>
      exact (Expansion.breakable_ofEntries s base _ _).bind fun _ _ =>
        .pure (passingIfListing_ok _)

/-- A cut breaks off the planning of a source, of whatever kind, and only a failed listing is worth
another attempt. -/
theorem breakable_resolve (transport : SourceTransport) :
    (resolve s base source transport).Breakable PassingIfListing := by
  cases transport with
  | registry => exact breakable_ofRegistry s base source
  | folder => exact breakable_ofFolder base source
  | catalog => exact breakable_ofCatalog s base source

end Plan

end ImageSync
