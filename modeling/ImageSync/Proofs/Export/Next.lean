import ImageSync.Proofs.Export.Place
import ImageSync.Proofs.Export.Tree
import ImageSync.Proofs.Run.Order

/-!
# The next image of an export

A scoped run that copies images from registries into directories makes one image directory after the
other. Here is what happens to one of them.

## Main definitions

* `Services.Exports`: services whose copies succeed and write a manifest.
* `FileTree.CanExport`: where an export can go.
* `exportFolder`: the directory of an exported image.

## Main statements

* `Destination.prepare_missing`: a directory is created with what is missing above it.
* `Slot.run_copy_next`: the next image is exported.
-/

namespace ImageSync

open Text

variable {σ : Type}

/-! ## Services and roots -/

/-- Services that copy each of these images into the empty directory that they are given, without a
change to anything else, and write a regular manifest there, as long as they are ready. They stay
ready. -/
def Services.Exports (s : Services σ) (images : List Image) (ready : σ → Prop) : Prop :=
  ∀ (job : CopyJob) (tree : FileTree) (state : σ) (path : Path) (a : Place),
    job.source ∈ images → ready state → job.destination = .inFolder path → tree.WellFormed →
    tree.find path true = .ok (a, .folder) → (∀ n, tree.get? (a ++ [n]) = none) →
    (s.copy job tree state).1.result = .ok () ∧
      (s.copy job tree state).2.1.WellFormed ∧
      tree.AgreesOutside (s.copy job tree state).2.1 a ∧
      (∃ content, (s.copy job tree state).2.1.get? (a ++ [manifestName]) = some (.file content)) ∧
      ready (s.copy job tree state).2.2

namespace FileTree

/-- Where an export can go: to an empty directory, or to a path that does not exist, where the names
before the first missing one lead to a directory. -/
inductive CanExport (t : FileTree) (p : Path) : Prop
  | empty (a : Place) (hfind : t.find p true = .ok (a, .folder))
      (hempty : ∀ n, t.get? (a ++ [n]) = none)
  | missing (hfind : t.find p false = .error .notFound) (above : List Name) (n : Name)
      (below : List Name) (a : Place) (hsegments : Path.segments p = above ++ n :: below)
      (hwalk : t.walk true true maxLinks (t.start p) above = .ok (.found a .folder))
      (hn : n ≠ Path.hereName) (hget : t.get? (a ++ [n]) = none)

variable {t : FileTree} {p : Path}

/-- A place where an export can go has room for one. Nothing is missing if it is a directory. -/
theorem CanExport.exists_room (h : t.CanExport p) (ht : t.WellFormed)
    (hlimits : t.limits = .unlimited) (hne : p ≠ []) (hup : Path.upName ∉ Path.segments p) :
    ∃ a ms, t.Room p a ms ∧ (t.isFolder p = true → ms = []) := by
  cases h with
  | empty a hfind hempty =>
      obtain ⟨-, hnul, k, hk, hleads⟩ := leads_of_find hfind
      refine ⟨a, [], ⟨hne, hup, hnul, ⟨k, hk, Path.names p, by simp, hleads⟩, fun q hq _ => ?_⟩,
        fun _ => rfl⟩
      obtain ⟨n, rest, rfl⟩ := List.exists_cons_of_ne_nil hq
      simpa using ht.get?_append_eq_none (hempty n) rest
  | missing hfind above n below a hsegments hwalk hn hget =>
      have hnul : Path.nul ∉ p := by
        intro (hnul : Utf8.Piece.char '\x00' ∈ p)
        rw [find, locate, checkText, if_pos hnul] at hfind
        cases hfind
      obtain ⟨k, hk, hleads⟩ := leads_of_walk hwalk
      have hnames : Path.names p = (above.filter fun n => n ≠ Path.hereName) ++
          n :: below.filter fun n => n ≠ Path.hereName := by
        rw [Path.names, hsegments, List.filter_append, List.filter_cons_of_pos (by simpa using hn)]
      refine ⟨a, _, ⟨hne, hup, hnul, ⟨k, hk, _, hnames, hleads⟩, fun q hq hcomparable => ?_⟩,
        fun hfolder => ?_⟩
      · obtain ⟨m, rest, rfl⟩ := List.exists_cons_of_ne_nil hq
        have hm : m = n := by
          rcases hcomparable with hpre | hpre
          · exact (List.cons_prefix_cons.1 hpre).1
          · exact (List.cons_prefix_cons.1 hpre).1.symm
        rw [hm]
        simpa using ht.get?_append_eq_none hget rest
      · have hproper : Path.IsProper n := Path.isProper_of_mem_names hup hnul (by simp [hnames])
        obtain ⟨b, hb⟩ := exists_find_of_isFolder hfolder
        rw [find_eq_notFound (ht.endsKept _) hlimits hne hnul hnames hleads hk hproper hget] at hb
        cases hb

end FileTree

/-! ## The directory of an image -/

/-- A directory for an image is created with all that is missing above it. -/
theorem Destination.prepare_missing {t : FileTree} {location : String} {k : Nat} {b : Place}
    {ms ns : List Name} {n : Name} (ht : t.WellFormed) (hlimits : t.limits = .unlimited)
    (hup : Path.upName ∉ Path.segments (Path.ofString location))
    (hnul : Path.nul ∉ Path.ofString location)
    (hend : (Path.segments (Path.ofString location)).getLast? =
      (Path.names (Path.ofString location)).getLast?)
    (hnames : Path.names (Path.ofString location) = ms ++ n :: ns)
    (hleads : FileTree.Leads t k (t.start (Path.ofString location)) ms b) (hk : k ≤ FileTree.maxLinks)
    (hfresh : t.get? (b ++ [n]) = none) :
    ∃ q, Path.absolute? t.homePath (Path.ofString location) = .ok q ∧
      (t.addFolders b (n :: ns)).WellFormed ∧
      (t.addFolders b (n :: ns)).find q true = .ok (b ++ n :: ns, .folder) ∧
      prepare t location .folder = (.ok (.inFolder q), t.addFolders b (n :: ns)) := by
  have hproper : ∀ m ∈ n :: ns, Path.IsProper m := fun m hm =>
    Path.isProper_of_mem_names hup hnul (by
      rw [hnames]
      exact List.mem_append_right ms hm)
  have hne := FileTree.ne_nil_of_names_eq hnames
  have hmissing := FileTree.find_eq_notFound (ht.endsKept _) hlimits hne hnul hnames hleads hk
    (hproper n List.mem_cons_self) hfresh
  have hmade := FileTree.makeFolders_eq hlimits ht hup hnul hend hnames hleads hk hfresh
  have hwf := ht.addFolders hproper (ht.folder_of_leads hleads) hfresh
  have hleads' : FileTree.Leads (t.addFolders b (n :: ns)) k
      ((t.addFolders b (n :: ns)).start (Path.ofString location))
      (Path.names (Path.ofString location)) (b ++ n :: ns) := by
    rw [hnames, FileTree.start_addFolders]
    exact ht.leads_addFolders hleads hproper hfresh
  obtain ⟨q, hq, -, hfind, -⟩ :=
    hwf.find_absolute (by rw [FileTree.limits_addFolders, hlimits]) hne hup hnul hleads' hk
  rw [FileTree.homePath_addFolders] at hq
  refine ⟨q, hq, hwf, hfind, ?_⟩
  rw [prepare, prepareFolder, FileTree.stat]
  simp only [hmissing, hmade, Image.ofFolder, hwf.absolute?_eq, FileTree.homePath_addFolders, hq,
    Except.map, ne_eq, not_true_eq_false, if_false]

section Next

variable {t₀ t : FileTree} {a : Place} {ms : List Name} {done : List (List Name)} {root : String}
  {r : Reference}

/-- The directory of an exported image. -/
def exportFolder (home : Path) (root : String) (r : Reference) : Path :=
  (Path.absolute? home (Path.ofString (Destination.join root r.text))).toOption.getD []

/-- The image directory of a reference, as names from the place of the export on. -/
def exportNames (ms : List Name) (r : Reference) : List Name := ms ++ r.components

/-- The path of an exported image leads through the names of the root and of the reference. -/
theorem names_join (hroom : t₀.Room (Path.ofString root) a ms)
    (h : r.WellFormed) :
    Path.names (Path.ofString (Destination.join root r.text)) =
        Path.names (Path.ofString root) ++ r.components ∧
      Path.upName ∉ Path.segments (Path.ofString (Destination.join root r.text)) ∧
      (Path.segments (Path.ofString (Destination.join root r.text))).getLast? =
        (Path.names (Path.ofString (Destination.join root r.text))).getLast? := by
  have hsegments := Destination.segments_join root h
  have hproper := Reference.isProper_of_mem_components h
  have hne := Reference.components_ne_nil h
  have hnames := Destination.names_join_text root h
  refine ⟨hnames, ?_, ?_⟩
  · rw [hsegments, List.mem_append, not_or]
    exact ⟨hroom.up_notMem, fun hmem => (hproper _ hmem).ne_up rfl⟩
  · rw [hnames, hsegments, List.getLast?_append, List.getLast?_append]
    cases hlast : r.components.getLast? with
    | none => exact absurd (List.getLast?_eq_none_iff.1 hlast) hne
    | some n => rfl

theorem ofString_ne_nil {text : String} (h : text ≠ "") : Path.ofString text ≠ [] := by
  simpa [Path.ofString] using h

theorem start_join (t : FileTree) (h : r.WellFormed) :
    t.start (Path.ofString (Destination.join root r.text)) = t.start (Path.ofString root) := by
  rw [FileTree.start, FileTree.start, Destination.isAbsolute_join h]

/-- The place of the next image is made ready: what is missing of it is created, and its path made
absolute leads to the new directory. -/
theorem Destination.prepare_next (hlimits : t₀.limits = .unlimited)
    (h : FileTree.Exported t₀ a ms done t)
    (hroom : t₀.Room (Path.ofString root) a ms) (hr : r.WellFormed)
    (hapart : ∀ g ∈ done, FileTree.Apart (exportNames ms r) g) :
    ∃ xs n ys, exportNames ms r = xs ++ n :: ys ∧ t.get? (a ++ xs ++ [n]) = none ∧
      (t.addFolders (a ++ xs) (n :: ys)).WellFormed ∧
      (t.addFolders (a ++ xs) (n :: ys)).find (exportFolder t₀.homePath root r) true =
        .ok (a ++ exportNames ms r, .folder) ∧
      prepare t (join root r.text) .folder =
        (.ok (.inFolder (exportFolder t₀.homePath root r)), t.addFolders (a ++ xs) (n :: ys)) := by
  have hne : exportNames ms r ≠ [] := by
    simp [exportNames, Reference.components_ne_nil hr]
  have hbelow : ms <+: exportNames ms r := List.prefix_append ms r.components
  obtain ⟨xs, n, ys, hf, hxs, hfresh⟩ := h.exists_missing hbelow hne hapart
  obtain ⟨k, hk, ns, hns, hleads₀⟩ := hroom.leads
  obtain ⟨hnames, hup, hend⟩ := names_join hroom hr
  have hnul := nul_notMem_join hr hroom.nul_notMem
  have hpath : Path.names (Path.ofString (join root r.text)) = (ns ++ xs) ++ n :: ys := by
    rw [hnames, hns, List.append_assoc, ← exportNames, hf, List.append_assoc]
  have hupxs : Path.upName ∉ xs := by
    intro hmem
    have hmem' : Path.upName ∈ Path.names (Path.ofString (join root r.text)) := by
      rw [hpath]
      exact List.mem_append_left _ (List.mem_append_right ns hmem)
    exact (Path.isProper_of_mem_names hup hnul hmem').ne_up rfl
  have hleads : FileTree.Leads t k (t.start (Path.ofString (join root r.text))) (ns ++ xs)
      (a ++ xs) := by
    rw [start_join t hr, h.start_eq]
    exact h.leads_append hleads₀ hupxs hxs
  obtain ⟨q, hq, hwf, hfind, hprepare⟩ := prepare_missing h.wellFormed (h.limits.trans hlimits) hup
    hnul hend hpath hleads hk hfresh
  have hexport : exportFolder t₀.homePath root r = q := by
    rw [exportFolder, ← h.homePath_eq, hq]
    rfl
  refine ⟨xs, n, ys, hf, hfresh, hwf, ?_, ?_⟩
  · rw [hexport, hf, hfind, List.append_assoc]
  · rw [hexport, hprepare]

/-- The next image is exported: its copy succeeds and leaves one more image directory. -/
theorem Slot.run_copy_next {s : Services σ} {images : List Image} {ready : σ → Prop}
    (hs : s.Exports images ready) (hlimits : t₀.limits = .unlimited) {w : World σ}
    (h : FileTree.Exported t₀ a ms done w.tree) (hready : ready w.services)
    (hroom : t₀.Room (Path.ofString root) a ms) (hr : r.WellFormed)
    (hapart : ∀ g ∈ done, FileTree.Apart (exportNames ms r) g) {slot : Slot}
    (hslot : slot.image = .inRegistry r) (hmem : slot.image ∈ images) {options : RunOptions}
    (hscoped : options.isScoped = true) (hfolder : options.destinationTransport = .folder) :
    ∃ w' ds, (slot.copy s root options).run none w = (some (.ok ()), w') ∧
      FileTree.Exported t₀ a ms (done ++ [exportNames ms r]) w'.tree ∧ ready w'.services ∧
      w.Grows w' ds ∧
      copied ds = [slot.job options (.inFolder (exportFolder t₀.homePath root r))] := by
  obtain ⟨xs, n, ys, hf, hfresh, hwf, hfind, hprepare⟩ :=
    Destination.prepare_next hlimits h hroom hr hapart
  let target : Image := .inFolder (exportFolder t₀.homePath root r)
  have hlocation : slot.location root options = Destination.join root r.text := by
    rw [Slot.location, hslot, hscoped]
    rfl
  have hplaced : Destination.prepare w.tree (slot.location root options)
      options.destinationTransport = (.ok target, w.tree.addFolders (a ++ xs) (n :: ys)) := by
    rw [hlocation, hfolder, hprepare]
  let w₁ := slot.announced target (slot.placed root options w)
  have htree : w₁.tree = w.tree.addFolders (a ++ xs) (n :: ys) :=
    congrArg Prod.snd hplaced
  have hempty : ∀ m, w₁.tree.get? (a ++ exportNames ms r ++ [m]) = none := by
    intro m
    have hnew : (w.tree.addFolders (a ++ xs) (n :: ys)).get? (a ++ xs ++ n :: ys ++ [m]) = none :=
      h.wellFormed.get?_addFolders_below hfresh (List.cons_ne_nil m [])
    rw [htree, hf, ← List.append_assoc a xs]
    exact hnew
  have hwf₁ : w₁.tree.WellFormed := htree ▸ hwf
  have hfind₁ : w₁.tree.find (exportFolder t₀.homePath root r) true =
      .ok (a ++ exportNames ms r, .folder) := htree ▸ hfind
  obtain ⟨hresult, hwf', hagrees, hmanifest, hready'⟩ :=
    hs (slot.job options target) w₁.tree w₁.services _ _ hmem hready rfl hwf₁ hfind₁ hempty
  obtain ⟨w', hrun, htree', hservices', hgrows⟩ := s.run_copyImage (slot.job options target) w₁
  rw [hresult] at hrun hgrows
  have hcopied : (copyWithRetry s options (slot.job options target)).run none w₁ =
      (some (.ok ()), w') := by
    rw [copyWithRetry, Work.run_bind_of_some (Work.run_retrying_of_ok hrun)]
    rfl
  have hopening : w.Grows w₁ [.preparing (slot.location root options),
      .event (.copying slot.number slot.batch.images.length slot.image.text target.text)] :=
    (World.Grows.of_note rfl rfl : w.Grows (slot.placed root options w) _).trans (.of_note rfl rfl)
  refine ⟨w', _, ?_, ?_, by rwa [hservices'], hopening.trans hgrows, rfl⟩
  · rw [slot.run_copy_of_ok s (congrArg Prod.fst hplaced), hcopied]
  · rw [htree']
    refine h.next hf hfresh ?_ hwf' hmanifest
    rw [← htree]
    exact hagrees

end Next

end ImageSync
