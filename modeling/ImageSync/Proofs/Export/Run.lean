import ImageSync.Proofs.Export.Found

/-!
# An export can be imported again

A scoped run that copies images from registries into directories leaves a tree in which a search
finds these directories and no others, each under the name of the reference that it came from.

## Main statements

* `Plan.run_export`: all images of a plan are exported.
* `Plan.export_then_search`: what a run leaves behind and what a search finds.
-/

namespace ImageSync

open Text

variable {σ : Type}

/-! ## A whole run -/

section Run

variable {s : Services σ} {refs : List Reference} {ready : σ → Prop} {plan : Plan} {root : String}
  {options : RunOptions} {w : World σ} {a : Place} {ms : List Name}

/-- The ends of a job. -/
def CopyJob.ends (job : CopyJob) : Image × Image := (job.source, job.destination)

/-- What has been exported when the images of some references have been copied. -/
def Progress (ready : σ → Prop) (w : World σ) (root : String) (a : Place) (ms : List Name)
    (done : List Slot) (w' : World σ) : Prop :=
  ∃ (refs : List Reference) (ds : List Happening), done.map Slot.image = refs.map .inRegistry ∧
    FileTree.Exported w.tree a ms (refs.map (exportNames ms)) w'.tree ∧ ready w'.services ∧
    w.Grows w' ds ∧
    (copied ds).map CopyJob.ends =
      refs.map fun r => (.inRegistry r, .inFolder (exportFolder w.tree.homePath root r))

theorem inRegistry_injective : Function.Injective Image.inRegistry := fun _ _ h =>
  Image.inRegistry.inj h

/-- Among different references, the directory of the next one is apart from those before it. -/
theorem apart_exportNames_of_split {rs rest : List Reference} {r : Reference}
    (hrefs : ∀ r ∈ refs, r.WellFormed ∧ r.isRepository = false) (hnodup : refs.Nodup)
    (hsplit : refs = rs ++ r :: rest) :
    ∀ g ∈ rs.map (exportNames ms), FileTree.Apart (exportNames ms r) g := by
  intro g hg
  obtain ⟨r', hr', rfl⟩ := List.mem_map.1 hg
  obtain ⟨hr, himage⟩ := hrefs r (by simp [hsplit])
  obtain ⟨hwf', himage'⟩ := hrefs r' (by simp [hsplit, hr'])
  refine Reference.apart_exportNames hr himage hwf' himage' ?_
  rintro rfl
  rw [hsplit, List.nodup_append] at hnodup
  exact hnodup.2.2 r hr' r (by simp) rfl

section Plan

variable (hs : s.Exports plan.images ready)
  (hrefs : ∀ r ∈ refs, r.WellFormed ∧ r.isRepository = false) (hnodup : refs.Nodup)
  (hplan : plan.images = refs.map .inRegistry)
  (hscoped : options.isScoped = true) (hfolder : options.destinationTransport = .folder)
  (hlimits : w.tree.limits = .unlimited) (hroom : w.tree.Room (Path.ofString root) a ms)

include hs hrefs hnodup hplan hscoped hfolder hlimits hroom

/-- One more image of the plan is exported. -/
theorem Progress.next {done left : List Slot} {slot : Slot} {w₁ : World σ}
    (h : Progress ready w root a ms done w₁) (hslots : plan.slots = done ++ slot :: left) :
    ∃ w₂, (slot.copy s root options).run none w₁ = (some (.ok ()), w₂) ∧
      Progress ready w root a ms (done ++ [slot]) w₂ := by
  obtain ⟨rs, ds, himages, hexported, hready, hgrows, hcopied⟩ := h
  have hall : refs.map Image.inRegistry =
      rs.map .inRegistry ++ slot.image :: left.map Slot.image := by
    rw [← hplan, ← plan.map_image_slots, hslots, List.map_append, himages, List.map_cons]
  have hmem : slot.image ∈ plan.images := by simp [hplan, hall]
  obtain ⟨rs', rest, hsplit, hrs, hrest⟩ := List.map_eq_append_iff.1 hall
  obtain ⟨r, rest, rfl, hslot, -⟩ := List.map_eq_cons_iff.1 hrest
  obtain rfl : rs' = rs := inRegistry_injective.list_map hrs
  obtain ⟨hr, -⟩ := hrefs r (by simp [hsplit])
  obtain ⟨w₂, ds', hrun, hexported', hready', hgrows', hcopied'⟩ :=
    Slot.run_copy_next hs hlimits hexported hready hroom hr
      (apart_exportNames_of_split hrefs hnodup hsplit) hslot.symm hmem hscoped hfolder
  refine ⟨w₂, hrun, rs' ++ [r], ds ++ ds', ?_, ?_, hready', hgrows.trans hgrows', ?_⟩
  · rw [List.map_append, himages, List.map_append, List.map_singleton, List.map_singleton, hslot]
  · rw [List.map_append]
    exact hexported'
  · rw [copied_append, List.map_append, hcopied, hcopied', List.map_append]
    simp [CopyJob.ends, Slot.job, hslot]

/-- A run exports all images of its plan. -/
theorem Plan.run_export (htree : w.tree.WellFormed) (hready : ready w.services) :
    ∃ w', (executeBatches s root options plan.batches).run none w = (some (.ok ()), w') ∧
      Progress ready w root a ms plan.slots w' := by
  have hstart : Progress ready w root a ms [] w :=
    ⟨[], [], rfl, .start htree hroom, hready, .of_journal_eq rfl, rfl⟩
  have hlog : ∀ done w₁ line, Progress ready w root a ms done w₁ → Progress ready w root a ms done
      { w₁ with journal := w₁.journal ++ [(w₁.now, .log line)] } := by
    rintro done w₁ line ⟨rs, ds, himages, hexported, hready, hgrows, hcopied⟩
    refine ⟨rs, ds ++ [], himages, hexported, hready,
      hgrows.trans (.of_logs w₁.now [line] rfl), ?_⟩
    rwa [List.append_nil]
  -- no copy fails, so nothing has to be known about a run that stops
  have hreaches := plan.executeBatches_induction (Q := fun _ _ _ _ => False)
    (fun _ _ _ _ hslots h => .inl
      (h.next hs hrefs hnodup hplan hscoped hfolder hlimits hroom hslots)) hlog rfl w hstart
  rcases hreaches with ⟨w', hrun, hprogress⟩ | ⟨_, _, _, _, _, _, _, hfalse⟩
  · exact ⟨w', hrun, hprogress⟩
  · exact hfalse.elim

end Plan

end Run

/-- A scoped export of different images into a place where it can go comes to its end and copies every
image. The directories of the copies are such that none is another one or lies in it. A search at the
root of the export, made absolute, finds these directories and no others, under the full names of
their references or, unscoped, under the last components of these. Without any image the root has to
be a directory already, since then nothing creates it. -/
theorem Plan.export_then_search {s : Services σ} {plan : Plan} {ready : σ → Prop}
    (hs : s.Exports plan.images ready) {refs : List Reference}
    (hrefs : ∀ r ∈ refs, r.WellFormed ∧ r.isRepository = false) (hnodup : refs.Nodup)
    (hplan : plan.images = refs.map .inRegistry) {root : String} (hroot : root ≠ "")
    (hup : Path.upName ∉ Path.segments (Path.ofString root)) {options : RunOptions}
    (hscoped : options.isScoped = true) (hfolder : options.destinationTransport = .folder)
    (hsource : options.sourceTransport ≠ .folder) {w : World σ} (hready : ready w.services)
    (htree : w.tree.WellFormed) (hlimits : w.tree.limits = .unlimited)
    (hcan : w.tree.CanExport (Path.ofString root))
    (hsome : refs ≠ [] ∨ w.tree.isFolder (Path.ofString root) = true) :
    ∃ (w' : World σ) (happened : List (Nat × Happening)) (folder : Reference → Path) (base : Path)
        (found : List Path),
      (plan.execute s root options).run none w = (some (.ok ⟨refs.length, plan.size⟩), w') ∧
      w'.journal = w.journal ++ happened ∧
      (copied (deeds happened)).map CopyJob.ends =
        refs.map (fun r => (.inRegistry r, .inFolder (folder r))) ∧
      (refs.map folder).Pairwise (fun p q =>
        ¬Path.steps p <+: Path.steps q ∧ ¬Path.steps q <+: Path.steps p) ∧
      FoundAgain w'.tree root refs folder base found := by
  obtain ⟨a, ms, hroom, hms⟩ :=
    hcan.exists_room htree hlimits (ofString_ne_nil hroot) hup
  obtain ⟨w₁, hrun, rs, ds, himages, hexported, -, ⟨happened, hjournal, hdeeds⟩, hcopied⟩ :=
    plan.run_export hs hrefs hnodup hplan hscoped hfolder hlimits hroom htree hready
  obtain rfl : rs = refs := by
    rw [plan.map_image_slots, hplan] at himages
    exact (inRegistry_injective.list_map himages).symm
  have hcount : plan.imageCount = rs.length := by
    rw [plan.imageCount_eq_length_images, hplan, List.length_map]
  have hcompatible : areCompatible options.sourceTransport options.destinationTransport = true := by
    rw [hfolder]
    cases hs : options.sourceTransport with
    | registry => rfl
    | catalog => rfl
    | folder => exact absurd hs hsource
  let finished : Happening := .event (.finished plan.imageCount plan.size)
  let w₂ : World σ := { w₁ with journal := w₁.journal ++ [(w₁.now, finished)] }
  have hexecute : (plan.execute s root options).run none w =
      (some (.ok ⟨rs.length, plan.size⟩), w₂) := by
    rw [execute, if_pos hcompatible, Work.run_bind_of_some hrun, ← hcount]
    rfl
  obtain ⟨base, found, hfound⟩ := hexported.foundAgain hrefs hnodup htree hlimits hroom
    fun hnil => hms (hsome.resolve_left fun hne => hne hnil)
  refine ⟨w₂, happened ++ [(w₁.now, finished)], exportFolder w.tree.homePath root, base, found,
    hexecute, ?_, ?_, ?_, hfound⟩
  · rw [← List.append_assoc, ← hjournal]
  · have hend : copied (deeds [(w₁.now, finished)]) = [] := rfl
    rw [deeds_append, copied_append, hdeeds, hend, List.append_nil, hcopied]
  · rw [List.pairwise_map]
    refine hnodup.imp_of_mem fun {r r'} hr hr' hne => ?_
    obtain ⟨hwf, himage⟩ := hrefs r hr
    obtain ⟨hwf', himage'⟩ := hrefs r' hr'
    exact ⟨steps_exportFolder_apart htree hroom hwf himage hwf' himage' hne,
      steps_exportFolder_apart htree hroom hwf' himage' hwf himage hne.symm⟩

/-! ## A small export -/

namespace SmallExport

/-- Services whose copies write an empty manifest and nothing else. -/
def services : Services Unit where
  listTags := fun _ _ _ state => ({ result := .ok [] }, state)
  copy := fun job tree state =>
    match job.destination with
    | .inRegistry _ => ({ result := .error (.failed "no directory" false) }, tree, state)
    | .inFolder path =>
      match tree.find path true with
      | .ok (a, .folder) => ({ result := .ok () }, tree.add (a ++ [manifestName]) (.file []), state)
      | _ => ({ result := .error (.failed "no directory" false) }, tree, state)
  pattern := fun _ => .error "no pattern"

theorem exports_services (images : List Image) : services.Exports images fun _ => True := by
  rintro job tree state path a - - hjob hwf hfind hempty
  obtain ⟨-, -, k, -, hleads⟩ := FileTree.leads_of_find hfind
  have hfolder : tree.get? a = some .folder := hwf.folder_of_leads hleads
  have hcopy : services.copy job tree state =
      ({ result := .ok () }, tree.add (a ++ [manifestName]) (.file []), state) := by
    simp only [services, hjob, hfind]
  rw [hcopy]
  refine ⟨rfl, hwf.add FileTree.isProper_manifestName hfolder (hempty _) _, ⟨rfl, rfl, ?_⟩,
    ⟨[], ?_⟩, trivial⟩
  · intro q hq
    by_cases hnil : q = []
    · rw [hnil]
      rfl
    · have hne : q ≠ a ++ [manifestName] := by
        rintro rfl
        simpa using hq (List.prefix_append a _)
      rw [FileTree.get?_add tree _ _ hnil, if_neg hne, Option.or_none]
  · rw [FileTree.get?_add tree _ _ (by simp), hempty, if_pos rfl]
    rfl

/-- A world with nothing but the root directory. -/
def world : World Unit where
  now := 0
  tree := { entries := [], home := [], limits := .unlimited }
  journal := []
  services := ()

theorem wellFormed_tree : world.tree.WellFormed := by
  refine ⟨⟨?nodup, ?proper, ?inFolder, ?home⟩, rfl⟩
  case nodup => exact List.nodup_nil
  case proper => simp [world]
  case inFolder => simp [world]
  case home => rfl

theorem canExport_out : world.tree.CanExport (Path.ofString "out") := by
  refine .missing rfl [] (Path.ofString "out") [] [] rfl ?_ (by decide) rfl
  exact FileTree.walk_nil world.tree true true _ []

def options : RunOptions where
  sourceTransport := .registry
  destinationTransport := .folder
  isScoped := true

def references : List Reference :=
  [⟨"quay.io", "team/app", some "v1", none⟩, ⟨"docker.io", "library/alpine", some "3.19", none⟩]

def plan : Plan := ⟨[{ images := references.map .inRegistry, access := {} }], by simp [references]⟩

end SmallExport

/-- Two images that are exported into a directory that does not exist. -/
theorem Plan.export_then_search_two :
    ∃ (w' : World Unit) (folder : Reference → Path) (base : Path) (found : List Path),
      (SmallExport.plan.execute SmallExport.services "out" SmallExport.options).run none
        SmallExport.world = (some (.ok ⟨2, 1⟩), w') ∧
      FoundAgain w'.tree "out" SmallExport.references folder base found := by
  have hrefs : ∀ r ∈ SmallExport.references, r.WellFormed ∧ r.isRepository = false := by
    intro r hr
    have hread : (Reference.parse r.text).toOption = some r := by
      revert r
      decide +kernel
    refine ⟨.of_parse (Reference.eq_ok_of_toOption hread), ?_⟩
    revert r
    decide
  have hplan : SmallExport.plan.images = SmallExport.references.map .inRegistry := rfl
  have hscoped : SmallExport.options.isScoped = true := rfl
  obtain ⟨w', -, folder, base, found, hrun, -, -, -, hfound⟩ :=
    Plan.export_then_search (SmallExport.exports_services _) hrefs (by decide) hplan (by decide)
      (by decide) hscoped rfl (by decide) trivial SmallExport.wellFormed_tree rfl
      SmallExport.canExport_out (.inl (by decide))
  exact ⟨w', folder, base, found, hrun, hfound⟩

/-- Without any image nothing creates the root: the run comes to its end, and a search at the root
fails. -/
theorem Plan.export_then_search_none :
    SmallExport.services.Exports Plan.empty.images (fun _ => True) ∧
      SmallExport.world.tree.WellFormed ∧
      SmallExport.world.tree.CanExport (Path.ofString "out") ∧ Plan.empty.images = [] ∧
      ∃ w' base,
        (Plan.empty.execute SmallExport.services "out" SmallExport.options).run none
          SmallExport.world = (some (.ok ⟨0, 0⟩), w') ∧
        Path.absolute? w'.tree.homePath (Path.ofString "out") = .ok base ∧
        w'.tree.findImages base = .error ⟨base, .notFound⟩ :=
  ⟨SmallExport.exports_services _, SmallExport.wellFormed_tree, SmallExport.canExport_out, rfl,
    _, _, rfl, rfl, rfl⟩

end ImageSync
