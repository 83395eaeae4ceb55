import ImageSync.Proofs.Destination.Prepared
import ImageSync.Proofs.Plan.Lines
import ImageSync.Proofs.Reference.RoundTrip
import ImageSync.Proofs.Run.Cancelled

/-!
# The turns of a run

Each image of a plan has its turn, in a world that the copies before it have led to. A run copies
nothing but in such a turn, and into the directory that was made ready then. So it never copies into
a directory that existed before, unless the path of the image climbs from a missing one.

## Main definitions

* `Reached s destination options w done w'`: the copies of some images lead from `w` to `w'`.
* `Services.Turn`: a world in which an image of a run has its turn.
* `Slot.Opens`: what the turn of an image starts with, if its place can be made ready.
* `Services.IsInTurn`: an attempt that belongs to a turn.
* `Services.KeepsTrees`: services whose copies leave well-formed trees behind.

## Main statements

* `Slot.run_copy_opens`: what one turn attempts.
* `Plan.executeBatches_opens`: what all of them attempt.
* `Services.attempts_into_new_folders`: a run with any cut.
-/

namespace ImageSync

open Text

variable {σ : Type}

/-- Services whose copies leave well-formed trees behind. -/
def Services.KeepsTrees (s : Services σ) : Prop :=
  ∀ job tree state, tree.WellFormed → (s.copy job tree state).2.1.WellFormed

/-! ## Planning leaves the file tree alone -/

namespace Plan

variable (s : Services σ) (base : Access) (source : String)

theorem leaves_ofRegistry : (ofRegistry s base source).Leaves fun _ _ => True := by
  unfold ofRegistry
  cases Reference.parse source with
  | error e => exact .pure trivial
  | ok named =>
      have hlisted : (if named.isRepository then listImages s base named
          else pure (.ok [named])).Leaves fun _ _ => True := by
        split
        · exact (leaves_listImages s base named).mono fun _ _ _ => trivial
        · exact .pure trivial
      refine .report_bind ?_
      dsimp only
      rw [← apply_ite fun listed => listed >>= _]
      refine hlisted.bind fun listed _ _ => ?_
      cases listed with
      | error e => exact .pure trivial
      | ok references =>
          dsimp only
          split <;> exact .pure trivial

theorem leaves_ofFolder : (ofFolder base source : Work σ _).Leaves fun _ _ => True := by
  refine .world_bind fun w => ?_
  cases searchFolder w.tree source with
  | error e => exact .pure trivial
  | ok found =>
      obtain ⟨root, found⟩ := found
      dsimp only
      cases found.mapM (Image.ofFolder w.tree) with
      | error e => exact .pure trivial
      | ok images =>
          dsimp only
          split
          · exact .pure trivial
          · exact .log_bind (.pure trivial)

theorem leaves_ofCatalog : (ofCatalog s base source).Leaves fun _ _ => True := by
  refine .world_bind fun w => ?_
  cases Catalog.load w.tree source with
  | error e => exact .pure trivial
  | ok catalog =>
      exact (Expansion.leaves_ofEntries s base .empty catalog.registries).bind fun _ _ _ =>
        .pure trivial

/-- Planning leaves the file tree alone, whatever the source is. -/
theorem leaves_resolve (transport : SourceTransport) :
    (resolve s base source transport).Leaves fun _ _ => True := by
  cases transport with
  | registry => exact leaves_ofRegistry s base source
  | folder => exact leaves_ofFolder base source
  | catalog => exact leaves_ofCatalog s base source

end Plan

theorem Services.tree_plan (s : Services σ) (source : String) (options : RunOptions)
    (w : World σ) :
    ∃ result w', (s.plan source options).run none w = (some result, w') ∧ w'.tree = w.tree := by
  refine Work.run_retryingFrom_tree (I := fun tree => tree = w.tree) (fun w₁ htree => ?_)
    options.retry "Planning sync" options.retry.retries.toNat 0 rfl
  obtain ⟨result, w₂, -, hrun, hsame, -⟩ :=
    Plan.leaves_resolve s options.sourceAccess source options.sourceTransport w₁
  exact ⟨result, w₂, hrun, hsame.trans htree⟩

/-! ## Turns -/

/-- The copies of the images `done` have succeeded one after the other, and with what was logged in
between they have led from the world `w` to this one. -/
inductive Reached (s : Services σ) (destination : String) (options : RunOptions) (w : World σ) :
    List Slot → World σ → Prop
  | start : Reached s destination options w [] w
  | logged {done : List Slot} {w' : World σ} (line : LogLine)
      (h : Reached s destination options w done w') :
      Reached s destination options w done
        { w' with journal := w'.journal ++ [(w'.now, .log line)] }
  | copied {done : List Slot} {slot : Slot} {w' w'' : World σ}
      (h : Reached s destination options w done w')
      (hcopy : (slot.copy s destination options).run none w' = (some (.ok ()), w'')) :
      Reached s destination options w (done ++ [slot]) w''

/-- In the world `before` an image has its turn in a run from `w`: the source was planned, and the
copies of the images before this one have led there. -/
def Services.Turn (s : Services σ) (source destination : String) (options : RunOptions)
    (w : World σ) (slot : Slot) (before : World σ) : Prop :=
  ∃ plan w₀ done left, (s.plan source options).run none w = (some (.ok plan), w₀) ∧
    plan.slots = done ++ slot :: left ∧ Reached s destination options w₀ done before

/-- A turn makes the place of its image ready, which leads to the world `after`. From there the
image is copied. -/
structure Slot.Opens (slot : Slot) (s : Services σ) (destination : String) (options : RunOptions)
    (before after : World σ) (target : Image) : Prop where
  prepare_eq : Destination.prepare before.tree (slot.location destination options)
    options.destinationTransport = (.ok target, after.tree)
  run_eq : (slot.copy s destination options).run none before =
    (copyWithRetry s options (slot.job options target)).run none after

/-- An attempt at a job, at the instant `now` of a run from `w`, belongs to the turn of an image. -/
structure Services.IsInTurn (s : Services σ) (source destination : String) (options : RunOptions)
    (w : World σ) (now : Nat) (job : CopyJob) (slot : Slot) (before after : World σ) : Prop where
  turn : s.Turn source destination options w slot before
  now_le : before.now ≤ now
  wellFormed : before.tree.WellFormed
  job_eq : job = slot.job options job.destination
  opens : slot.Opens s destination options before after job.destination

/-! ## One turn -/

/-- What stands behind a journal that grows is one of the deeds or a line of the log. -/
theorem World.Grows.continues {w w' : World σ} {ds : List Happening} (h : w.Grows w' ds) :
    w.Continues w' fun x => x.2.isLog = true ∨ x.2 ∈ ds := by
  obtain ⟨happened, hjournal, rfl⟩ := h
  refine ⟨happened, hjournal, fun x hx => ?_⟩
  by_cases hlog : x.2.isLog = true
  · exact .inl hlog
  · exact .inr (List.mem_filter.2 ⟨List.mem_map_of_mem hx, by simpa using hlog⟩)

section Run

variable {s : Services σ} {source destination : String} {options : RunOptions} {w : World σ}

/-- A job is attempted and nothing else is. -/
theorem continues_copyWithRetry {job : CopyJob} {result : Except (Halt SyncError) Unit} {w' : World σ}
    (hrun : (copyWithRetry s options job).run none w = (some result, w')) :
    w.Continues w' fun h => ∀ job', h.2 = .attempt job' → job' = job := by
  have hgrows : ∃ attempts last, w.Grows w' (List.replicate attempts (.attempt job) ++ last) ∧
      ∀ job', .attempt job' ∉ last := by
    obtain ⟨w₁, attempts, -, -, ⟨hok, hgrows⟩ | ⟨cause, herror, hgrows⟩⟩ :=
      run_copyWithRetry s options job w
    · obtain ⟨-, rfl⟩ := Prod.mk.inj (hrun.symm.trans hok)
      exact ⟨attempts, [.copied job], hgrows, by simp⟩
    · obtain ⟨-, rfl⟩ := Prod.mk.inj (hrun.symm.trans herror)
      exact ⟨attempts, [], by simpa using hgrows, by simp⟩
  obtain ⟨attempts, last, hgrows, hlast⟩ := hgrows
  refine hgrows.continues.mono fun h hh job' hjob => ?_
  rw [hjob] at hh
  rcases hh with hlog | hmem
  · cases hlog
  · rcases List.mem_append.1 hmem with hmem | hmem
    · simpa using List.eq_of_mem_replicate hmem
    · exact absurd hmem (hlast job')

/-- A turn attempts nothing but the job of its image, and only if the place was made ready. -/
theorem Slot.run_copy_opens (hs : s.KeepsTrees) (slot : Slot) (destination : String)
    (options : RunOptions) (hwf : w.tree.WellFormed) :
    ∃ result w', (slot.copy s destination options).run none w = (some result, w') ∧
      w'.tree.WellFormed ∧
      w.Continues w' fun h => ∀ job, h.2 = .attempt job →
        w.now ≤ h.1 ∧ job = slot.job options job.destination ∧
          ∃ after, slot.Opens s destination options w after job.destination := by
  obtain ⟨result, w', hstops⟩ := slot.stops_copy s destination options w
  have hrun := hstops.lasts.run_none
  have hready : (slot.placed destination options w).tree.WellFormed :=
    Destination.prepare_wellFormed hwf _ _
  refine ⟨result, w', hrun, ?_⟩
  cases htarget : (Destination.prepare w.tree (slot.location destination options)
      options.destinationTransport).1 with
  | error e =>
      obtain ⟨-, rfl⟩ := Prod.mk.inj (hrun.symm.trans (slot.run_copy_of_error s htarget))
      exact ⟨hready, .of_note rfl fun _ h => by cases h⟩
  | ok target =>
      let after := slot.announced target (slot.placed destination options w)
      have hcopy : (slot.copy s destination options).run none w =
          (copyWithRetry s options (slot.job options target)).run none after :=
        slot.run_copy_of_ok s htarget
      have hopens : slot.Opens s destination options w after target :=
        ⟨Prod.ext htarget rfl, hcopy⟩
      have hjob := hcopy.symm.trans hrun
      have htree : ∃ r w₁, (copyWithRetry s options (slot.job options target)).run none after =
          (some r, w₁) ∧ w₁.tree.WellFormed ∧ ∀ path, r ≠ .error (.failed (.destinationExists path)) :=
        tree_copyWithRetry (I := FileTree.WellFormed) (hs (slot.job options target)) hready
      obtain ⟨r, w₁, hrun', htree, -⟩ := htree
      obtain ⟨-, rfl⟩ := Prod.mk.inj (hjob.symm.trans hrun')
      let K (h : Nat × Happening) : Prop :=
        ∀ job, h.2 = .attempt job → job = slot.job options target
      have hplaced : w.Continues (slot.placed destination options w) K :=
        .of_note rfl fun _ h => by cases h
      have hannounced : (slot.placed destination options w).Continues after K :=
        .of_note rfl fun _ h => by cases h
      have hattempts := (hplaced.trans hannounced).trans (continues_copyWithRetry hjob)
      refine ⟨htree, (hattempts.and hstops.lasts.journal).mono fun h hh job hattempt => ?_⟩
      obtain rfl := hh.1 job hattempt
      exact ⟨hh.2.2.1, rfl, after, hopens⟩

/-! ## All turns -/

/-- What the copies of a plan attempt belongs to turns. -/
theorem Plan.executeBatches_opens (hs : s.KeepsTrees) (destination : String) {plan : Plan}
    {w₀ : World σ} (hplan : (s.plan source options).run none w = (some (.ok plan), w₀))
    (hwf : w₀.tree.WellFormed) :
    ∃ result w', (executeBatches s destination options plan.batches).run none w₀ =
        (some result, w') ∧
      w₀.Continues w' fun h => ∀ job, h.2 = .attempt job →
        ∃ slot before after,
          s.IsInTurn source destination options w h.1 job slot before after := by
  let K (h : Nat × Happening) : Prop := ∀ job, h.2 = .attempt job →
    ∃ slot before after, s.IsInTurn source destination options w h.1 job slot before after
  let P (done : List Slot) (w' : World σ) : Prop :=
    Reached s destination options w₀ done w' ∧ w'.tree.WellFormed ∧ w₀.Continues w' K
  let Q (_ : List Slot) (_ : Slot) (_ : Halt SyncError) (w' : World σ) : Prop := w₀.Continues w' K
  have hstep : ∀ done slot left before, plan.slots = done ++ slot :: left → P done before →
      (∃ w', (slot.copy s destination options).run none before = (some (.ok ()), w') ∧
          P (done ++ [slot]) w') ∨
        ∃ e w', (slot.copy s destination options).run none before = (some (.error e), w') ∧
          Q done slot e w' := by
    rintro done slot left before hslots ⟨hreached, hwf, hjournal⟩
    have hturn : s.Turn source destination options w slot before :=
      ⟨plan, w₀, done, left, hplan, hslots, hreached⟩
    obtain ⟨result, w', hrun, hwf', hopens⟩ := slot.run_copy_opens hs destination options hwf
    have hjournal' : w₀.Continues w' K := hjournal.trans <| hopens.mono fun h hh job hjob => by
      obtain ⟨hnow, hsame, after, hafter⟩ := hh job hjob
      exact ⟨slot, before, after, hturn, hnow, hwf, hsame, hafter⟩
    cases result with
    | ok u => exact .inl ⟨w', hrun, hreached.copied hrun, hwf', hjournal'⟩
    | error e => exact .inr ⟨e, w', hrun, hjournal'⟩
  have hlog : ∀ done w' line, P done w' →
      P done { w' with journal := w'.journal ++ [(w'.now, .log line)] } :=
    fun done w' line ⟨hreached, hwf, hjournal⟩ =>
      ⟨hreached.logged line, hwf, hjournal.trans (.of_note rfl fun _ h => by cases h)⟩
  have hstart : P [] w₀ := ⟨.start, hwf, .of_journal_eq rfl⟩
  rcases plan.executeBatches_induction hstep hlog rfl w₀ hstart with
    ⟨w', hrun, -, -, hjournal⟩ | ⟨done, slot, left, e, w', -, hrun, hjournal⟩
  · exact ⟨_, w', hrun, hjournal⟩
  · exact ⟨_, w', hrun, hjournal⟩

/-! ## Whole runs -/

/-- What a run attempts belongs to turns, whatever cuts it. -/
theorem Services.run_opens (hs : s.KeepsTrees) (source destination : String)
    (options : RunOptions) (hwf : w.tree.WellFormed) (cut : Option Nat) :
    ∃ result w', (s.run source destination options).run cut w = (some result, w') ∧
      w.Continues w' fun h => ∀ job, h.2 = .attempt job →
        ∃ slot before after,
          s.IsInTurn source destination options w h.1 job slot before after := by
  let K (h : Nat × Happening) : Prop := ∀ job, h.2 = .attempt job →
    ∃ slot before after, s.IsInTurn source destination options w h.1 job slot before after
  cases hcompatible : areCompatible options.sourceTransport options.destinationTransport with
  | false =>
      refine ⟨.error (.failed .incompatible), w, ?_, .of_journal_eq rfl⟩
      rw [run, hcompatible]
      rfl
  | true =>
      have hrun : ∃ whole w₁, (s.run source destination options).run none w = (some whole, w₁) ∧
          w.Continues w₁ K := by
        obtain ⟨r, w₀, hstops⟩ := s.stops_plan source options w
        have hplanning : w.Continues w₀ K := hstops.lasts.journal.mono fun h hh job hjob => by
          obtain ⟨hkind, -⟩ := hh
          rw [hjob] at hkind
          exact hkind.elim
        rw [run, if_pos hcompatible, Work.run_bind_of_some hstops.lasts.run_none]
        cases r with
        | error e => exact ⟨.error e, w₀, rfl, hplanning⟩
        | ok plan =>
            obtain ⟨r, w₁, hplan, htree⟩ := s.tree_plan source options w
            obtain ⟨-, rfl⟩ := Prod.mk.inj (hstops.lasts.run_none.symm.trans hplan)
            obtain ⟨result, w₂, hcopies, hcopying⟩ := plan.executeBatches_opens hs destination
              hstops.lasts.run_none (htree ▸ hwf)
            have hjournal := hplanning.trans hcopying
            simp only [Plan.execute, if_pos hcompatible]
            rw [Work.run_bind_of_some hcopies]
            cases result with
            | error e => exact ⟨.error e, w₂, rfl, hjournal⟩
            | ok u => exact ⟨_, _, rfl, hjournal.trans (.of_note rfl fun _ h => by cases h)⟩
      obtain ⟨whole, w₁, hwhole, happened, hjournal, hkind⟩ := hrun
      rcases s.run_cut_or source destination options w hcompatible hwhole cut with
        hcut | ⟨T, w', hcut, ⟨first, hfirst, -⟩, missed, hmissed, -⟩
      · exact ⟨whole, w₁, hcut, happened, hjournal, hkind⟩
      · -- what happened before the cut is the first part of what happens without one
        have hsplit : happened = first ++ missed := by
          rw [hfirst, hjournal, List.append_assoc] at hmissed
          exact List.append_cancel_left hmissed
        exact ⟨_, w', hcut, first, hfirst, fun h hh => hkind h (by simp [hsplit, hh])⟩

/-! ## Copies go into new directories -/

/-- Making a directory for an image never takes one that exists, and what a run into directories
attempts goes into the directory that was made in the turn of its image, if each `..` in the
location comes behind a way to a directory then. -/
theorem Services.attempts_into_new_folders (hs : s.KeepsTrees) (source destination : String)
    (options : RunOptions) (hfolder : options.destinationTransport = .folder)
    (hwf : w.tree.WellFormed) (cut : Option Nat) :
    (∀ (t t' : FileTree) (location : String) (image : Image), t.WellFormed →
      t.Climbs (Path.ofString location) →
      Destination.prepare t location .folder = (.ok image, t') →
        ∃ path place, image = .inFolder path ∧
          Destination.MadeFor t t' location path place) ∧
    ∃ result w' happened, (s.run source destination options).run cut w = (some result, w') ∧
      w'.journal = w.journal ++ happened ∧
      ∀ now job, (now, .attempt job) ∈ happened → ∃ slot before after,
        s.IsInTurn source destination options w now job slot before after ∧
        (before.tree.Climbs (Path.ofString (slot.location destination options)) →
          ∃ path place, job.destination = .inFolder path ∧
            Destination.MadeFor before.tree after.tree (slot.location destination options) path
              place) := by
  refine ⟨fun t t' location image hwf hclimbs h => Destination.exists_madeFor hwf hclimbs h, ?_⟩
  obtain ⟨result, w', hrun, happened, hjournal, hturns⟩ :=
    s.run_opens hs source destination options hwf cut
  refine ⟨result, w', happened, hrun, hjournal, fun now job hattempt => ?_⟩
  obtain ⟨slot, before, after, hturn⟩ := hturns _ hattempt job rfl
  have hprepare := hturn.opens.prepare_eq
  rw [hfolder] at hprepare
  exact ⟨slot, before, after, hturn, fun hclimbs =>
    Destination.exists_madeFor hturn.wellFormed hclimbs hprepare⟩

end Run

namespace Occupied

/-- The place of an image. -/
def place : Place := [Path.ofString "app:v1"]

/-- A tree with the directory of the image. -/
def tree : FileTree where
  entries := [(place, .folder), (place ++ [manifestName], .file [1])]
  home := []

/-- Services that have nothing to do for a copy. -/
def services : Services Unit where
  listTags := fun _ _ _ state => ({ result := .ok [] }, state)
  copy := fun _ tree state => ({ result := .ok () }, tree, state)
  pattern := fun _ => .error "no pattern"

def options : RunOptions where
  sourceTransport := .registry
  destinationTransport := .folder

def world : World Unit := { now := 0, tree := tree, journal := [], services := () }

/-- A run that copies the image to a directory below a root. -/
def run (root : String) : Option (Except (Halt SyncError) Summary) × World Unit :=
  (services.run "quay.io/app:v1" root options).run none world

/-- The job that copies the image to the directory with this path. -/
def job (path : String) : CopyJob where
  source := .inRegistry ⟨"quay.io", "app", some "v1", none⟩
  destination := .inFolder (Path.ofString path)
  sourceAccess := {}
  destinationAccess := {}
  options := {}

theorem keepsTrees_services : services.KeepsTrees := fun _ _ _ h => h

theorem wellFormed_tree : tree.WellFormed := by
  refine ⟨⟨?nodup, ?proper, ?inFolder, ?home⟩, rfl⟩
  case nodup => decide
  case proper =>
    have hfolder : Path.IsProper (Path.ofString "app:v1") := by constructor <;> decide
    have hmanifest : Path.IsProper manifestName := by constructor <;> decide
    simp [tree, place, hfolder, hmanifest]
  case inFolder =>
    have hplace : tree.get? place = some .folder := by decide
    have hentries : ∀ p ∈ tree.entries, p.1 = place ∨ p.1 = place ++ [manifestName] := by
      simp [tree]
    intro p hp
    rcases hentries p hp with h | h
    · rw [h]
      exact ⟨by simp [place], rfl⟩
    · rw [h, List.dropLast_concat]
      exact ⟨by simp, hplace⟩
  case home => rfl

end Occupied

/-- An image that is copied into a root that does not exist. -/
theorem Services.attempts_into_new_folders_out :
    Occupied.services.KeepsTrees ∧ Occupied.options.destinationTransport = .folder ∧
    Occupied.world.tree.WellFormed ∧
    ∃ now slot before after path place,
      (now, .attempt (Occupied.job "/out/app:v1")) ∈ (Occupied.run "out").2.journal ∧
      Occupied.services.IsInTurn "quay.io/app:v1" "out" Occupied.options Occupied.world now
        (Occupied.job "/out/app:v1") slot before after ∧
      (Occupied.job "/out/app:v1").destination = .inFolder path ∧
      Destination.MadeFor before.tree after.tree "out/app:v1" path place := by
  have hwf : Occupied.world.tree.WellFormed := Occupied.wellFormed_tree
  refine ⟨Occupied.keepsTrees_services, rfl, hwf, ?_⟩
  obtain ⟨-, result, w', happened, hrun, hjournal, hattempts⟩ :=
    Services.attempts_into_new_folders Occupied.keepsTrees_services "quay.io/app:v1" "out"
      Occupied.options rfl hwf none
  have hattempt : .attempt (Occupied.job "/out/app:v1") ∈ deeds (Occupied.run "out").2.journal := by
    decide +kernel
  have hjournal : (Occupied.run "out").2.journal = happened := by
    rw [Occupied.run, hrun, hjournal]
    rfl
  obtain ⟨⟨now, h⟩, hx, hjob⟩ := List.mem_map.1 (List.mem_filter.1 hattempt).1
  obtain rfl : h = .attempt (Occupied.job "/out/app:v1") := hjob
  obtain ⟨slot, before, after, hturn, hmade⟩ := hattempts now _ (hjournal ▸ hx)
  have himage : slot.image = (Occupied.job "/out/app:v1").source :=
    (congrArg CopyJob.source hturn.job_eq).symm
  have hlocation : slot.location "out" Occupied.options = "out/app:v1" := by
    rw [Slot.location, himage]
    exact (by decide +kernel : Destination.join "out" (Destination.nameOf
      (Occupied.job "/out/app:v1").source none false) = "out/app:v1")
  have hup : Path.upName ∉ Path.segments (Path.ofString "out/app:v1") := by decide
  rw [hlocation] at hmade
  obtain ⟨path, place, hpath, hmade⟩ := hmade (FileTree.climbs_of_up_notMem hup _)
  exact ⟨now, slot, before, after, path, place, hx, hturn, hpath, hmade⟩

/-- A step `..` behind a missing directory: the place of an image is ready though the directory was
there before, with an image in it, and the image is copied into this directory. -/
theorem Destination.prepare_takes_existing :
    Occupied.tree.WellFormed ∧ Occupied.tree.get? Occupied.place = some .folder ∧
    (∃ t', prepare Occupied.tree "new/../app:v1" .folder =
        (.ok (.inFolder (Path.ofString "/new/../app:v1")), t') ∧
      t'.find (Path.ofString "/new/../app:v1") true = .ok (Occupied.place, .folder) ∧
      t'.get? (Occupied.place ++ [manifestName]) = some (.file [1])) ∧
    .attempt (Occupied.job "/new/../app:v1") ∈ deeds (Occupied.run "new/..").2.journal := by
  have hprepare : (prepare Occupied.tree "new/../app:v1" .folder).1 =
      .ok (.inFolder (Path.ofString "/new/../app:v1")) :=
    Reference.eq_ok_of_toOption (by decide +kernel)
  exact ⟨Occupied.wellFormed_tree, rfl, ⟨_, Prod.ext hprepare rfl,
    Reference.eq_ok_of_toOption (by decide +kernel), by decide +kernel⟩, by decide +kernel⟩

end ImageSync
