import ImageSync.Proofs.Export.Grown
import ImageSync.Proofs.Export.Run
import ImageSync.Proofs.Run.Cancelled

/-!
# An export does not stand in its own way

A scoped run that copies different images into a root that does not exist never finds the directory
of an image in place already. It may fail for any other reason, and it may be cut at any instant.

## Main statements

* `Slot.run_copy_grown`: the copy of one image, whatever becomes of it.
* `Plan.executeBatches_untaken`: the copies of a plan.
* `Services.run_untaken`: a run with any cut.
-/

namespace ImageSync

open Text

variable {σ : Type}

/-! ## One copy -/

section Copy

variable {s : Services σ} {options : RunOptions} {slot : Slot} {root : String} {w : World σ}
  {t₀ : FileTree} {a : Place} {n : Name} {xs ys : List Name}
  {done : List (List Name)} {r : Reference}
  (hscoped : options.isScoped = true) (hfolder : options.destinationTransport = .folder)
  (hslot : slot.image = .inRegistry r)

include hscoped hslot in
theorem Slot.location_eq : slot.location root options = Destination.join root r.text := by
  rw [location, hslot, hscoped]
  rfl

include hscoped hfolder hslot

/-- The copy of another image, apart from those before it. Its place is not taken, and of the tree it
changes nothing but what lies there. -/
theorem Slot.run_copy_grown (hs : s.CopiesInside)
    (h : FileTree.Grown t₀ a (n :: ys) done w.tree) (hwf₀ : t₀.WellFormed)
    (hstops : t₀.Stops (Path.ofString root) xs a n ys) (hfree : t₀.get? (a ++ [n]) = none)
    (hr : r.WellFormed)
    (hapart : ∀ g ∈ done, FileTree.Apart (exportNames (n :: ys) r) g) :
    ∃ result w', (slot.copy s root options).run none w = (some result, w') ∧
      FileTree.Grown t₀ a (n :: ys) (done ++ [exportNames (n :: ys) r]) w'.tree ∧
      ∀ path, result ≠ .error (.failed (.destinationExists path)) := by
  let f := exportNames (n :: ys) r
  have hms : n :: ys <+: f := List.prefix_append _ _
  have hup : Path.upName ∉ f := by
    intro hmem
    rcases List.mem_append.1 hmem with hmem | hmem
    · exact hstops.up_notMem hmem
    · exact Reference.upName_notMem_components hr hmem
  have hlocation : slot.location root options = Destination.join root r.text :=
    slot.location_eq hscoped hslot
  have hp : Path.names (Path.ofString (slot.location root options)) = xs ++ f := by
    rw [hlocation, Destination.names_join_text root hr, hstops.names, List.append_assoc]
    rfl
  obtain ⟨k, -, hleads⟩ := hstops.leads
  have hleads : FileTree.Leads t₀ k (t₀.start (Path.ofString (slot.location root options))) xs a := by
    rwa [hlocation, start_join t₀ hr]
  have hnone : t₀.get? (a ++ f) = none := by
    simpa [f, exportNames] using hwf₀.get?_append_eq_none hfree (ys ++ r.components)
  obtain ⟨hgrown, huntaken, htarget⟩ :=
    Destination.prepare_grown h hms (by simp [f, exportNames]) hapart hup hleads hp
  have hplaced : (slot.placed root options w).tree =
      (Destination.prepare w.tree (slot.location root options) .folder).2 := by
    rw [placed, hfolder]
  cases hprepare : (Destination.prepare w.tree (slot.location root options)
      options.destinationTransport).1 with
  | error e =>
      refine ⟨.error (.failed e), _, slot.run_copy_of_error s hprepare, hplaced ▸ hgrown,
        fun path => ?_⟩
      rw [← hfolder, hprepare] at huntaken
      simpa using huntaken path
  | ok target =>
      rw [hfolder] at hprepare
      obtain ⟨path, rfl, habsolute⟩ := htarget target hprepare
      have hothers := FileTree.eq_or_apart hapart
      -- a copy finds nothing but the directory of the image under its path
      have hcopy : ∀ tree state, FileTree.Grown t₀ a (n :: ys) (done ++ [f]) tree →
          FileTree.Grown t₀ a (n :: ys) (done ++ [f])
            (s.copy (slot.job options (.inFolder path)) tree state).2.1 := by
        intro tree state h
        obtain ⟨hwf, hhome, hget⟩ :=
          hs (slot.job options (.inFolder path)) tree state path rfl h.wellFormed
        refine h.copied hwf₀ (by simp) hnone hwf hhome fun q hq => hget q fun c hfind => ?_
        have habsolute : Path.absolute? tree.homePath
            (Path.ofString (slot.location root options)) = .ok path := by
          rw [← habsolute, FileTree.homePath, FileTree.homePath, h.home, hgrown.home]
        rwa [h.find_absolute hwf₀ hms hothers hup hleads hp habsolute hfind]
      obtain ⟨result, w', hrun, hgrown', hresult⟩ := tree_copyWithRetry hcopy
        (w := slot.announced (.inFolder path) (slot.placed root options w)) (hplaced ▸ hgrown)
      rw [← hfolder] at hprepare
      exact ⟨result, w', by rw [slot.run_copy_of_ok s hprepare, hrun], hgrown', hresult⟩

end Copy

/-! ## The copies of a plan -/

section Plan

variable {s : Services σ} {refs : List Reference} {plan : Plan} {root : String}
  {options : RunOptions} {w : World σ} {a : Place} {n : Name} {xs ys : List Name}

/-- If no copy finds its place taken where what went before left the tree, then none does. -/
theorem Plan.executeBatches_of_copies {P : List Slot → FileTree → Prop} (hP : P [] w.tree)
    (hstep : ∀ done slot left w₁, plan.slots = done ++ slot :: left → P done w₁.tree →
      ∃ result w₂, (slot.copy s root options).run none w₁ = (some result, w₂) ∧
        (result = .ok () → P (done ++ [slot]) w₂.tree) ∧
        ∀ path, result ≠ .error (.failed (.destinationExists path))) :
    ∃ result w', (executeBatches s root options plan.batches).run none w = (some result, w') ∧
      ∀ path, result ≠ .error (.failed (.destinationExists path)) := by
  have hreaches := plan.executeBatches_induction (P := fun done w₁ => P done w₁.tree)
    (Q := fun _ _ e _ => ∀ path, e ≠ .failed (.destinationExists path))
    (fun done slot left w₁ hslots hdone => by
      obtain ⟨result, w₂, hrun, hok, hresult⟩ := hstep done slot left w₁ hslots hdone
      cases result with
      | ok u => exact .inl ⟨w₂, hrun, hok rfl⟩
      | error e => exact .inr ⟨e, w₂, hrun, fun path => by simpa using hresult path⟩)
    (fun _ _ _ h => h) rfl w hP
  rcases hreaches with ⟨w', hrun, -⟩ | ⟨done, slot, left, e, w', -, hrun, he⟩
  · exact ⟨_, w', hrun, nofun⟩
  · exact ⟨_, w', hrun, fun path => by simpa using he path⟩

/-- The copies of different images below a root of which the names stop where nothing lies. -/
theorem Plan.executeBatches_grown (hs : s.CopiesInside)
    (hrefs : ∀ r ∈ refs, r.WellFormed ∧ r.isRepository = false) (hnodup : refs.Nodup)
    (hplan : plan.images = refs.map .inRegistry)
    (hscoped : options.isScoped = true) (hfolder : options.destinationTransport = .folder)
    (hwf : w.tree.WellFormed) (hstops : w.tree.Stops (Path.ofString root) xs a n ys)
    (hfree : w.tree.get? (a ++ [n]) = none) :
    ∃ result w', (executeBatches s root options plan.batches).run none w = (some result, w') ∧
      ∀ path, result ≠ .error (.failed (.destinationExists path)) := by
  let P (done : List Slot) (t : FileTree) : Prop :=
    ∃ rs : List Reference, done.map Slot.image = rs.map .inRegistry ∧
      FileTree.Grown w.tree a (n :: ys) (rs.map (exportNames (n :: ys))) t
  refine plan.executeBatches_of_copies (P := P) ⟨[], rfl, .start hwf hfree⟩ ?_
  rintro done slot left w₁ hslots ⟨rs, himages, hgrown⟩
  have hall : refs.map Image.inRegistry =
      rs.map .inRegistry ++ slot.image :: left.map Slot.image := by
    rw [← hplan, ← plan.map_image_slots, hslots, List.map_append, himages, List.map_cons]
  obtain ⟨rs', rest, hsplit, hrs, hrest⟩ := List.map_eq_append_iff.1 hall
  obtain ⟨r, rest, rfl, hslot, -⟩ := List.map_eq_cons_iff.1 hrest
  obtain rfl : rs' = rs := inRegistry_injective.list_map hrs
  obtain ⟨hr, -⟩ := hrefs r (by simp [hsplit])
  obtain ⟨result, w₂, hrun, hgrown', hresult⟩ :=
    Slot.run_copy_grown hscoped hfolder hslot.symm hs hgrown hwf hstops hfree hr
      (apart_exportNames_of_split hrefs hnodup hsplit)
  refine ⟨result, w₂, hrun, fun _ => ⟨rs' ++ [r], ?_, by simpa using hgrown'⟩, hresult⟩
  rw [List.map_append, himages, List.map_append, List.map_singleton, List.map_singleton, hslot]

/-- The copies of images below a root of which the names stop at something that does not lead on. The
first of them fails. -/
theorem Plan.executeBatches_blocked
    (hrefs : ∀ r ∈ refs, r.WellFormed ∧ r.isRepository = false)
    (hplan : plan.images = refs.map .inRegistry)
    (hscoped : options.isScoped = true) (hfolder : options.destinationTransport = .folder)
    (hstops : w.tree.Stops (Path.ofString root) xs a n ys) (hget : w.tree.get? (a ++ [n]) ≠ none) :
    ∃ result w', (executeBatches s root options plan.batches).run none w = (some result, w') ∧
      ∀ path, result ≠ .error (.failed (.destinationExists path)) := by
  obtain ⟨k, -, hleads⟩ := hstops.leads
  refine plan.executeBatches_of_copies (P := fun _ t => t = w.tree) rfl ?_
  intro done slot left w₁ hslots htree
  have hmem : slot.image ∈ refs.map .inRegistry := by
    rw [← hplan, ← plan.map_image_slots, hslots]
    simp
  obtain ⟨r, hrefsr, hslot⟩ := List.mem_map.1 hmem
  obtain ⟨hr, -⟩ := hrefs r hrefsr
  have hlocation : slot.location root options = Destination.join root r.text :=
    slot.location_eq hscoped hslot.symm
  have hstart : w₁.tree.start (Path.ofString (slot.location root options)) =
      w.tree.start (Path.ofString root) := by
    rw [htree, hlocation, start_join w.tree hr]
  have hp : Path.names (Path.ofString (slot.location root options)) =
      xs ++ n :: (ys ++ r.components) := by
    rw [hlocation, Destination.names_join_text root hr, hstops.names]
    simp
  have hup : Path.upName ∉ ys ++ r.components := by
    intro hmem
    rcases List.mem_append.1 hmem with hmem | hmem
    · exact hstops.up_notMem (List.mem_cons_of_mem n hmem)
    · exact Reference.upName_notMem_components hr hmem
  have hne : ys ++ r.components ≠ [] := by simp [Reference.components_ne_nil hr]
  have hstop : ∀ k ≤ FileTree.maxLinks, ∀ b, ¬FileTree.Leads w₁.tree k
      (w₁.tree.start (Path.ofString (slot.location root options))) (xs ++ [n]) b := by
    rw [hstart, htree]
    exact hstops.not_leads
  obtain ⟨e, hprepare, he⟩ :=
    Destination.prepare_blocked (by rwa [hstart, htree]) (by rwa [htree]) hstop hup hne hp
  rw [← hfolder] at hprepare
  exact ⟨.error (.failed e), _, slot.run_copy_of_error s (congrArg Prod.fst hprepare), nofun,
    fun path => by simpa using he path⟩

/-- The copies of different images below a root that does not exist. -/
theorem Plan.executeBatches_untaken (hs : s.CopiesInside)
    (hrefs : ∀ r ∈ refs, r.WellFormed ∧ r.isRepository = false) (hnodup : refs.Nodup)
    (hplan : plan.images = refs.map .inRegistry) (hroot : root ≠ "")
    (hscoped : options.isScoped = true) (hfolder : options.destinationTransport = .folder)
    (hwf : w.tree.WellFormed) (hmissing : w.tree.stat (Path.ofString root) = .error .notFound)
    (hclimbs : w.tree.Climbs (Path.ofString root)) :
    ∃ result w', (executeBatches s root options plan.batches).run none w = (some result, w') ∧
      ∀ path, result ≠ .error (.failed (.destinationExists path)) := by
  obtain ⟨xs, a, n, ys, hstops⟩ :=
    FileTree.exists_stops (hwf.endsKept _) hmissing (ofString_ne_nil hroot) hclimbs
  by_cases hfree : w.tree.get? (a ++ [n]) = none
  · exact plan.executeBatches_grown hs hrefs hnodup hplan hscoped hfolder hwf hstops hfree
  · exact plan.executeBatches_blocked hrefs hplan hscoped hfolder hstops hfree

end Plan

/-! ## Whole runs -/

/-- A run that is not cut and does not fail at a directory that exists does not do so when it is
cut. -/
theorem Services.run_cut_untaken (s : Services σ) (source destination : String)
    (options : RunOptions) {w w₁ : World σ}
    (hcompatible : areCompatible options.sourceTransport options.destinationTransport = true)
    {whole : Except (Halt SyncError) Summary}
    (hwhole : (s.run source destination options).run none w = (some whole, w₁))
    (huntaken : ∀ path, whole ≠ .error (.failed (.destinationExists path))) (cut : Option Nat) :
    ∃ result w', (s.run source destination options).run cut w = (some result, w') ∧
      ∀ path, result ≠ .error (.failed (.destinationExists path)) := by
  rcases s.run_cut_or source destination options w hcompatible hwhole cut with
    hrun | ⟨T, w', hrun, -⟩
  · exact ⟨whole, w₁, hrun, huntaken⟩
  · refine ⟨_, w', hrun, fun path hpath => ?_⟩
    rw [Except.error.injEq] at hpath
    rcases s.errorAt_waits source destination options w T with
      ⟨v, -, -, hbehind, herror⟩ | ⟨v, -, -, hbehind, herror⟩ | ⟨-, herror⟩
    · obtain ⟨-, -, repository, cause, -, -, hlisting⟩ := hbehind
      rw [herror, hlisting] at hpath
      cases hpath
    · obtain ⟨image, -, -, -, -, cause, -, -, -, hcopying⟩ := hbehind
      rw [herror, hcopying] at hpath
      cases hpath
    · rw [herror] at hpath
      cases hpath

/-- A scoped run of a source that is planned as different images of registries, into a root that does
not exist, never fails because a directory exists, whatever cuts it. -/
theorem Services.run_untaken {s : Services σ} (hs : s.CopiesInside) {source root : String}
    {options : RunOptions} {w w₁ : World σ} {plan : Plan} {refs : List Reference}
    (hcompatible : areCompatible options.sourceTransport options.destinationTransport = true)
    (hresolve : (Plan.resolve s options.sourceAccess source options.sourceTransport).run none w =
      (some (.ok plan), w₁)) (htree : w₁.tree = w.tree)
    (hrefs : ∀ r ∈ refs, r.WellFormed ∧ r.isRepository = false) (hnodup : refs.Nodup)
    (hplan : plan.images = refs.map .inRegistry) (hroot : root ≠ "")
    (hscoped : options.isScoped = true) (hfolder : options.destinationTransport = .folder)
    (hwf : w.tree.WellFormed) (hmissing : w.tree.stat (Path.ofString root) = .error .notFound)
    (hclimbs : w.tree.Climbs (Path.ofString root)) (cut : Option Nat) :
    ∃ result w', (s.run source root options).run cut w = (some result, w') ∧
      ∀ path, result ≠ .error (.failed (.destinationExists path)) := by
  rw [← htree] at hwf hmissing hclimbs
  obtain ⟨result, w₂, hcopies, huntaken⟩ := plan.executeBatches_untaken hs hrefs hnodup hplan hroot
    hscoped hfolder hwf hmissing hclimbs
  have hrun : ∃ whole w₃, (s.run source root options).run none w = (some whole, w₃) ∧
      ∀ path, whole ≠ .error (.failed (.destinationExists path)) := by
    rw [run, if_pos hcompatible, Services.plan,
      Work.run_bind_of_some (Work.run_retrying_of_ok hresolve)]
    simp only [Plan.execute, if_pos hcompatible]
    rw [Work.run_bind_of_some hcopies]
    cases result with
    | ok u => exact ⟨_, _, rfl, by simp⟩
    | error e => exact ⟨_, _, rfl, by simpa using huntaken⟩
  obtain ⟨whole, w₃, hwhole, hnever⟩ := hrun
  exact s.run_cut_untaken source root options hcompatible hwhole hnever cut

end ImageSync
