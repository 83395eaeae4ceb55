import ImageSync.Proofs.Export.Next

/-!
# The search after an export

When all images are exported, a search at the root of the export finds their directories, and the
name of each, seen from the root, is the full name of its reference.

## Main definitions

* `FoundAgain`: what a search finds.

## Main statements

* `Reference.apart_exportNames`: different references have directories apart from each other.
* `FileTree.Exported.foundAgain`: what was exported is found again.
-/

namespace ImageSync

open Text

/-- A search at a root finds the directories of references again, each once, and each under the name
that the reference itself has. -/
structure FoundAgain (tree : FileTree) (root : String) (refs : List Reference)
    (folder : Reference → Path) (base : Path) (found : List Path) : Prop where
  absolute : Path.absolute? tree.homePath (Path.ofString root) = .ok base
  search : tree.findImages base = .ok found
  perm : (found.map Path.steps).Perm ((refs.map folder).map Path.steps)
  fullName : ∀ r ∈ refs, ∀ q, Path.steps q = Path.steps (folder r) →
    Destination.nameOf (.inFolder q) (some base) true = r.text
  lastName : ∀ r ∈ refs, ∀ q, Path.steps q = Path.steps (folder r) →
    some (Destination.nameOf (.inFolder q) (some base) false).toList =
      (splitOn '/' r.text.toList).getLast?

variable {refs : List Reference} {root : String} {t₀ t : FileTree} {a : Place} {ms : List Name}
  {r r' : Reference}

/-! ## Directories apart -/

/-- Different references have image directories of which none lies in another. -/
theorem Reference.apart_exportNames (h : r.WellFormed) (himage : r.isRepository = false)
    (h' : r'.WellFormed) (himage' : r'.isRepository = false) (hne : r ≠ r') :
    FileTree.Apart (exportNames ms r) (exportNames ms r') := by
  constructor
  · intro hpre
    have hcomponents := (List.prefix_append_right_inj ms).1 hpre
    exact hne (eq_of_prefix_components h himage h' himage' hcomponents)
  · intro hpre
    have hcomponents := (List.prefix_append_right_inj ms).1 hpre
    exact hne (eq_of_prefix_components h' himage' h himage hcomponents).symm

theorem Reference.exportNames_ne (h : r.WellFormed) : ¬exportNames ms r <+: ms := by
  intro hpre
  have hlength := hpre.length_le
  have hpos := List.length_pos_iff.2 (components_ne_nil h)
  rw [exportNames, List.length_append] at hlength
  omega

/-- The directory of a reference, seen from the root. -/
theorem steps_exportFolder (ht₀ : t₀.WellFormed)
    (hroom : t₀.Room (Path.ofString root) a ms) (hr : r.WellFormed) :
    Path.steps (exportFolder t₀.homePath root r) =
      .root :: (t₀.origin (Path.ofString root) ++ Path.names (Path.ofString root)).map .name ++
        r.components.map .name := by
  obtain ⟨hnames, hup, -⟩ := names_join hroom hr
  have hnul := Destination.nul_notMem_join hr hroom.nul_notMem
  have hne : Path.ofString (Destination.join root r.text) ≠ [] := by
    intro hnil
    have := Reference.components_ne_nil hr
    simp [hnil, Path.names, this] at hnames
  obtain ⟨q, hq, -, -, -, -, hsteps⟩ := ht₀.exists_absolute? hne hup hnul
  have hfolder : exportFolder t₀.homePath root r = q := by
    rw [exportFolder, hq]
    rfl
  have horigin : t₀.origin (Path.ofString (Destination.join root r.text)) =
      t₀.origin (Path.ofString root) := by
    rw [FileTree.origin, FileTree.origin, Destination.isAbsolute_join hr]
  rw [hfolder, hsteps, horigin, hnames, ← List.append_assoc, List.map_append]
  rfl

/-- The paths of the directories of different references are apart, too. -/
theorem steps_exportFolder_apart (ht₀ : t₀.WellFormed)
    (hroom : t₀.Room (Path.ofString root) a ms) (h : r.WellFormed)
    (himage : r.isRepository = false) (h' : r'.WellFormed) (himage' : r'.isRepository = false)
    (hne : r ≠ r') :
    ¬Path.steps (exportFolder t₀.homePath root r) <+:
      Path.steps (exportFolder t₀.homePath root r') := by
  rw [steps_exportFolder ht₀ hroom h, steps_exportFolder ht₀ hroom h',
    List.prefix_append_right_inj]
  intro hpre
  have hcomponents := hpre.map Path.Step.text
  rw [Path.map_text_map_name, Path.map_text_map_name] at hcomponents
  exact hne (Reference.eq_of_prefix_components h himage h' himage' hcomponents)

/-! ## The search -/

section Search

variable (hrefs : ∀ r ∈ refs, r.WellFormed ∧ r.isRepository = false)

include hrefs

theorem components_injOn : ∀ r ∈ refs, ∀ r' ∈ refs, r.components = r'.components → r = r' := by
  intro r hr r' hr' heq
  exact Reference.eq_of_prefix_components (hrefs r hr).1 (hrefs r hr).2 (hrefs r' hr').1
    (hrefs r' hr').2 (heq ▸ List.prefix_refl _)

/-- After an export the names of the root that were missing name directories. -/
theorem FileTree.Exported.folders_root
    (h : FileTree.Exported t₀ a ms (refs.map (exportNames ms)) t) (hsome : refs = [] → ms = []) :
    ∀ q, q ≠ [] → q <+: ms → t.get? (a ++ q) = some .folder := by
  intro q hq hpre
  cases refs with
  | nil =>
      rw [hsome rfl] at hpre
      exact absurd (List.prefix_nil.1 hpre) hq
  | cons r refs =>
      obtain ⟨hr, -⟩ := hrefs r List.mem_cons_self
      obtain ⟨hfolder, -⟩ := h.images (exportNames ms r) (by simp)
      obtain ⟨rest, rfl⟩ := hpre
      have hne : rest ++ r.components ≠ [] := by simp [Reference.components_ne_nil hr]
      refine h.wellFormed.folder_of_get?_append hne (e := .folder) ?_
      simpa [exportNames] using hfolder

/-- After an export the root leads to the place below which everything was exported. -/
theorem FileTree.Exported.find_root (h : FileTree.Exported t₀ a ms (refs.map (exportNames ms)) t)
    (hlimits : t₀.limits = .unlimited) (hroom : t₀.Room (Path.ofString root) a ms)
    (hsome : refs = [] → ms = []) :
    ∃ base, Path.absolute? t.homePath (Path.ofString root) = .ok base ∧
      Path.isAbsolute base = true ∧ t.find base true = .ok (a ++ ms, .folder) ∧
      Path.steps base =
        .root :: (t.origin (Path.ofString root) ++ Path.names (Path.ofString root)).map .name := by
  obtain ⟨k, hk, ns, hns, hleads₀⟩ := hroom.leads
  have hup : Path.upName ∉ ms := by
    intro hmem
    have hmem' : Path.upName ∈ Path.names (Path.ofString root) := by
      rw [hns]
      exact List.mem_append_right ns hmem
    exact (Path.isProper_of_mem_names hroom.up_notMem hroom.nul_notMem hmem').ne_up rfl
  have hleads : FileTree.Leads t k (t.start (Path.ofString root))
      (Path.names (Path.ofString root)) (a ++ ms) := by
    rw [hns, h.start_eq]
    exact h.leads_append hleads₀ hup (h.folders_root hrefs hsome)
  exact h.wellFormed.find_absolute (h.limits.trans hlimits) hroom.ne_nil hroom.up_notMem
    hroom.nul_notMem hleads hk

/-- What a search from that place on comes upon are the references. -/
theorem FileTree.Exported.outermost_iff_components
    (h : FileTree.Exported t₀ a ms (refs.map (exportNames ms)) t) (hlimits : t.limits = .unlimited)
    {base : Path} (hfind : t.find base true = .ok (a ++ ms, .folder)) (ns : List Name) :
    t.Outermost (fun ns => t.holdsImage (base.below ns)) (a ++ ms) ns ↔
      ns ∈ refs.map Reference.components := by
  rw [h.outermost_iff hlimits _ _ hfind]
  · simp [exportNames]
  · intro f hf
    obtain ⟨r, -, rfl⟩ := List.mem_map.1 hf
    exact List.prefix_append ms r.components
  · intro f hf g hg hpre
    obtain ⟨r, hr, rfl⟩ := List.mem_map.1 hf
    obtain ⟨r', hr', rfl⟩ := List.mem_map.1 hg
    by_contra hne
    refine (Reference.apart_exportNames (hrefs r hr).1 (hrefs r hr).2 (hrefs r' hr').1
      (hrefs r' hr').2 fun heq => hne ?_).1 hpre
    rw [heq]

theorem FileTree.Exported.holdsImage_root
    (h : FileTree.Exported t₀ a ms (refs.map (exportNames ms)) t)
    (hlimits : t.limits = .unlimited) {base : Path}
    (hfind : t.find base true = .ok (a ++ ms, .folder)) : t.holdsImage base = false := by
  have hplace : t.get? (a ++ ms ++ []) = some .folder := by
    simpa using h.wellFormed.get?_of_find hfind
  refine h.holdsImage_eq_false hlimits hfind hplace fun g hg => ?_
  obtain ⟨r, hr, rfl⟩ := List.mem_map.1 hg
  rw [List.append_nil]
  exact Reference.exportNames_ne (hrefs r hr).1

/-- A search from the root on finds every reference once. -/
theorem FileTree.Exported.exists_findImages
    (h : FileTree.Exported t₀ a ms (refs.map (exportNames ms)) t) (hnodup : refs.Nodup)
    (hlimits : t.limits = .unlimited) {base : Path}
    (hfind : t.find base true = .ok (a ++ ms, .folder)) :
    ∃ found : List (List Name), t.findImages base = .ok (found.map base.below) ∧
      found.Perm (refs.map Reference.components) := by
  have hclosed := h.wellFormed.toClosed
  have hkept := h.wellFormed.endsKept base
  have hread := FileTree.readable_of_unlimited hclosed hkept hlimits hfind
  obtain ⟨found, hfound, hfoundnodup, houter⟩ :=
    FileTree.findImages_eq hclosed hkept hread hfind (h.holdsImage_root hrefs hlimits hfind)
  refine ⟨found, hfound, ?_⟩
  rw [List.perm_ext_iff_of_nodup hfoundnodup (hnodup.map_on (components_injOn hrefs))]
  intro ns
  rw [houter, h.outermost_iff_components hrefs hlimits hfind]

/-- What was exported is found again. -/
theorem FileTree.Exported.foundAgain (h : FileTree.Exported t₀ a ms (refs.map (exportNames ms)) t)
    (hnodup : refs.Nodup) (ht₀ : t₀.WellFormed)
    (hlimits : t₀.limits = .unlimited) (hroom : t₀.Room (Path.ofString root) a ms)
    (hsome : refs = [] → ms = []) :
    ∃ base found, FoundAgain t root refs (exportFolder t₀.homePath root) base found := by
  have hlimits' : t.limits = .unlimited := h.limits.trans hlimits
  obtain ⟨base, hbase, habsolute, hfind, hsteps⟩ := h.find_root hrefs hlimits hroom hsome
  have hfolder : ∀ r ∈ refs, Path.steps (exportFolder t₀.homePath root r) =
      Path.steps base ++ r.components.map .name := by
    intro r hr
    have horigin : t.origin (Path.ofString root) = t₀.origin (Path.ofString root) := by
      rw [FileTree.origin, FileTree.origin, h.home]
    rw [steps_exportFolder ht₀ hroom (hrefs r hr).1, hsteps, horigin]
  obtain ⟨found, hfound, hperm⟩ := h.exists_findImages hrefs hnodup hlimits' hfind
  have hproper : ∀ ns ∈ found, ∀ n ∈ ns, Path.IsProper n := by
    intro ns hns
    obtain ⟨r, hr, rfl⟩ := List.mem_map.1 (hperm.mem_iff.1 hns)
    exact Reference.isProper_of_mem_components (hrefs r hr).1
  have hname : ∀ r ∈ refs, ∀ q, Path.steps q = Path.steps (exportFolder t₀.homePath root r) →
      ∀ isScoped, Destination.nameOf (.inFolder q) (some base) isScoped =
        Destination.nameOf (.inRegistry r) none isScoped := by
    intro r hr q hq isScoped
    refine Destination.nameOf_inFolder (hrefs r hr).1 (by simp [hsteps]) ?_ isScoped
    rw [hq, hfolder r hr]
  refine ⟨base, found.map base.below, ?_⟩
  constructor
  case absolute => exact hbase
  case search => exact hfound
  case perm =>
    have hleft : (found.map base.below).map Path.steps =
        found.map fun ns => Path.steps base ++ ns.map .name := by
      rw [List.map_map]
      exact List.map_congr_left fun ns hns => Path.steps_foldl_append habsolute (hproper ns hns)
    have hright : (refs.map (exportFolder t₀.homePath root)).map Path.steps =
        (refs.map Reference.components).map fun ns => Path.steps base ++ ns.map .name := by
      rw [List.map_map, List.map_map]
      exact List.map_congr_left hfolder
    rw [hleft, hright]
    exact hperm.map _
  case fullName =>
    intro r hr q hq
    rw [hname r hr q hq]
    rfl
  case lastName =>
    intro r hr q hq
    rw [hname r hr q hq, Reference.lastComponent_text (hrefs r hr).1]
    simp [Destination.nameOf]

end Search

end ImageSync
