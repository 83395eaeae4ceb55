import ImageSync.Proofs.Destination.Identity
import ImageSync.Proofs.Plan.Folder

/-!
# Imported images in a registry

A scoped copy of an image directory is called by the names below the directory that was searched.
What these names say of the host is a matter of the text they stand in: with a root before them it
is cut behind the root, and without one they are read like any short name. So two directories can
have one copy only where short names are completed.

## Main definitions

* `Reference.written cs`: a text, cut behind the host that it is read with.
* `Reference.Abbreviates short long`: one component and the same in the official namespace.
* `Reference.MeansSame a b`: texts that are completed to one host and path.
* `Destination.IsDefaultRegistry root`: the roots that name the default registry alone.

## Main statements

* `Reference.splitHost_eq_iff`: which texts are completed to the same.
* `Destination.meansSame_stem_iff`: which are, behind one root.
* `Plan.resolve_folder_copies`: which images of a plan of a directory have the same copy.
-/

namespace ImageSync.Reference

open Text

variable {host a b : List Char}

/-- A host and what follows it, as written. Without a host the default registry is meant. -/
def written (cs : List Char) : List Char × List Char :=
  match splitFirst '/' cs with
  | some (first, rest) => if looksLikeHost first then (first, rest) else (defaultHost.toList, cs)
  | none => (defaultHost.toList, cs)

theorem splitHost_eq_completed_written (cs : List Char) :
    splitHost cs = completed (written cs).1 (written cs).2 := rfl

theorem written_of_looksLikeHost {rest : List Char} (hslash : '/' ∉ host)
    (hlooks : looksLikeHost host = true) : written (host ++ '/' :: rest) = (host, rest) := by
  simp [written, splitFirst_append_cons rest hslash, hlooks]

theorem written_of_not_looksLikeHost {first rest : List Char} (hslash : '/' ∉ first)
    (hlooks : looksLikeHost first = false) :
    written (first ++ '/' :: rest) = (defaultHost.toList, first ++ '/' :: rest) := by
  simp [written, splitFirst_append_cons rest hslash, hlooks]

/-- What follows a slash plays no part for the host. -/
theorem exists_written_append {front : List Char} (hfront : '/' ∈ front) :
    ∃ host rest, ∀ cs, written (front ++ cs) = (host, rest ++ cs) := by
  obtain ⟨first, tail, rfl, hslash⟩ := List.eq_append_cons_of_mem hfront
  by_cases hlooks : looksLikeHost first = true
  · exact ⟨first, tail, fun cs => by simp [written_of_looksLikeHost hslash hlooks]⟩
  · refine ⟨defaultHost.toList, first ++ '/' :: tail, fun cs => ?_⟩
    simp [written_of_not_looksLikeHost hslash (by simpa using hlooks)]

/-- On the default registry a single component is short for the one in the official namespace. -/
def Abbreviates (short long : List Char) : Prop :=
  '/' ∉ short ∧ long = officialNamespace.toList ++ short

theorem Abbreviates.slash_mem (h : Abbreviates a b) : '/' ∈ b := by
  have hslash : '/' ∈ officialNamespace.toList := by decide
  rw [h.2]
  exact List.mem_append_left _ hslash

/-- What stands behind the default registry when it is completed. -/
def officialName (rest : List Char) : List Char :=
  if '/' ∈ rest then rest else officialNamespace.toList ++ rest

theorem completed_eq (host rest : List Char) : completed host rest =
    (presentHost host,
      if presentHost host = defaultHost.toList then officialName rest else rest) := by
  by_cases hhost : presentHost host = defaultHost.toList <;> by_cases hrest : '/' ∈ rest <;>
    simp [completed, officialName, hhost, hrest]

theorem officialName_eq_iff :
    officialName a = officialName b ↔ a = b ∨ Abbreviates a b ∨ Abbreviates b a := by
  unfold officialName
  by_cases ha : '/' ∈ a
  · have hno : ¬Abbreviates a b := fun h => h.1 ha
    by_cases hb : '/' ∈ b
    · have hno' : ¬Abbreviates b a := fun h => h.1 hb
      simp [ha, hb, hno, hno']
    · have hne : a ≠ b := fun heq => hb (heq ▸ ha)
      simp [ha, hb, hne, Abbreviates]
  · have hno : ¬Abbreviates b a := fun h => ha h.slash_mem
    by_cases hb : '/' ∈ b
    · have hne : a ≠ b := fun heq => ha (heq ▸ hb)
      simp [ha, hb, hne, Abbreviates, eq_comm]
    · have hno' : ¬Abbreviates a b := fun h => hb h.slash_mem
      simp [ha, hb, hno, hno']

/-- Hosts and rests that are completed to the same. -/
theorem completed_eq_iff {host' : List Char} : completed host a = completed host' b ↔
    presentHost host = presentHost host' ∧
      (a = b ∨ presentHost host = defaultHost.toList ∧ (Abbreviates a b ∨ Abbreviates b a)) := by
  rw [completed_eq, completed_eq, Prod.mk.injEq]
  refine and_congr_right fun hsame => ?_
  rw [← hsame]
  by_cases hhost : presentHost host = defaultHost.toList
  · simp only [hhost, if_true, true_and, officialName_eq_iff]
  · simp only [hhost, if_false, false_and, or_false]

/-- Texts that are completed to one host and path: their hosts are the same, with the default
registry where there is none and in its present spelling, and so is what follows, but that there the
official namespace may be left out. -/
def MeansSame (a b : List Char) : Prop :=
  presentHost (written a).1 = presentHost (written b).1 ∧
    ((written a).2 = (written b).2 ∨ presentHost (written a).1 = defaultHost.toList ∧
      (Abbreviates (written a).2 (written b).2 ∨ Abbreviates (written b).2 (written a).2))

theorem splitHost_eq_iff : splitHost a = splitHost b ↔ MeansSame a b := by
  rw [splitHost_eq_completed_written, splitHost_eq_completed_written, completed_eq_iff, MeansSame]

/-- A slash before what differs says that nothing was left out. -/
theorem meansSame_iff_of_slash {x y rest : List Char} (hslash : '/' ∈ rest)
    (hx : written x = (host, rest ++ a)) (hy : written y = (host, rest ++ b)) :
    MeansSame x y ↔ a = b := by
  have hlong : ∀ cs ds, ¬Abbreviates (rest ++ cs) ds := fun cs _ h =>
    h.1 (List.mem_append_left cs hslash)
  simp [MeansSame, hx, hy, hlong]

theorem of_presentHost_eq_default (h : presentHost host = defaultHost.toList) :
    '/' ∉ host ∧ looksLikeHost host = true := by
  unfold presentHost at h
  split at h
  · next heq =>
    rw [heq]
    decide
  · rw [h]
    decide

/-- Two texts are read as one reference if they are completed to the same. -/
theorem eq_iff_meansSame {x y : String} {r s : Reference} (hr : parse x = .ok r)
    (hs : parse y = .ok s) : r = s ↔ MeansSame x.toList y.toList := by
  rw [← splitHost_eq_iff]
  constructor
  · rintro rfl
    rw [splitHost_of_parse hr, splitHost_of_parse hs]
  · intro hsame
    have htext : r.text = s.text := by
      rw [← String.toList_inj, text_of_parse hr, text_of_parse hs, hsame]
    have hread := parse_text (WellFormed.of_parse hr)
    rw [htext, parse_text (.of_parse hs)] at hread
    exact (Except.ok.inj hread).symm

end ImageSync.Reference

namespace ImageSync.Destination

open Text
open Reference (MeansSame Abbreviates)

variable {root : String} {a b : List Char}

/-- The roots that name the default registry and nothing on it. -/
def IsDefaultRegistry (root : String) : Prop :=
  Reference.presentHost (trimEnd (fun c => c == '/') root.toList) = Reference.defaultHost.toList

/-- Behind a root, names are completed to the same if they are the same. Only directly on the
default registry the official namespace may be left out. -/
theorem meansSame_stem_iff (hroot : root ≠ "") :
    MeansSame (stem root.toList ++ a) (stem root.toList ++ b) ↔
      a = b ∨ IsDefaultRegistry root ∧ (Abbreviates a b ∨ Abbreviates b a) := by
  have hstem : stem root.toList = trimEnd (fun c => c == '/') root.toList ++ ['/'] := by
    rw [stem, if_neg (by simpa using hroot)]
  rw [hstem, IsDefaultRegistry]
  generalize trimEnd (fun c => c == '/') root.toList = front
  simp only [List.append_assoc, List.singleton_append]
  by_cases hslash : '/' ∈ front
  · have hno : ¬Reference.presentHost front = Reference.defaultHost.toList := fun h =>
      (Reference.of_presentHost_eq_default h).1 hslash
    obtain ⟨host, rest, hwritten⟩ := Reference.exists_written_append hslash
    have hcut : ∀ cs, Reference.written (front ++ '/' :: cs) = (host, rest ++ ['/'] ++ cs) :=
      fun cs => by simpa using hwritten ('/' :: cs)
    rw [Reference.meansSame_iff_of_slash (by simp) (hcut a) (hcut b)]
    simp [hno]
  by_cases hlooks : Reference.looksLikeHost front = true
  · simp [MeansSame, Reference.written_of_looksLikeHost hslash hlooks]
  · have hno : ¬Reference.presentHost front = Reference.defaultHost.toList := fun h =>
      hlooks (Reference.of_presentHost_eq_default h).2
    have hcut : ∀ cs, Reference.written (front ++ '/' :: cs) =
        (Reference.defaultHost.toList, front ++ ['/'] ++ cs) := fun cs => by
      rw [Reference.written_of_not_looksLikeHost hslash (by simpa using hlooks), List.append_assoc]
      rfl
    rw [Reference.meansSame_iff_of_slash (by simp) (hcut a) (hcut b)]
    simp [hno]

/-! ## The names of image directories in a text -/

namespace FolderBelow

variable {folder : Path} {d : Place} {ns : List Name} {name : String}

theorem ofString_eq (h : FolderBelow folder d ns name) (hne : ns ≠ []) :
    Path.ofString name = joinWith Path.slash ns := by
  obtain ⟨names, hnames, hname, -⟩ := h.below
  cases hnames with
  | inside => exact hname
  | itself => exact absurd rfl hne

theorem toList_join (h : FolderBelow folder d ns name) (root : String) :
    (join root name).toList = stem root.toList ++ name.toList := by
  have hne : name.toList ≠ [] := by simpa using h.ne_empty
  rw [join, String.toList_ofList, joinChars_eq _ hne h.head_ne]

end FolderBelow

end ImageSync.Destination

namespace ImageSync.Plan

open Text
open Destination (nameOf join prepare FolderBelow IsDefaultRegistry stem)
open Reference (MeansSame Abbreviates)

variable {σ : Type} {t : FileTree} {source : String} {plan : Plan} {root p₁ p₂ : Path} {d : Place}
  {found : List (List Name)} {ns₁ ns₂ : List Name}

/-- Different image directories have different names. -/
theorem ListsFolders.nameOf_ne (h : ListsFolders t source plan root d found) (hwf : t.WellFormed)
    (htext : t.TextNamed) (hns₁ : ns₁ ∈ found) (hns₂ : ns₂ ∈ found) (hne : ns₁ ≠ ns₂)
    (hp₁ : Path.steps p₁ = Path.steps root ++ ns₁.map .name)
    (hp₂ : Path.steps p₂ = Path.steps root ++ ns₂.map .name) :
    FolderBelow root d ns₁ (nameOf (.inFolder p₁) (some root) true) ∧
      FolderBelow root d ns₂ (nameOf (.inFolder p₂) (some root) true) ∧
      nameOf (.inFolder p₁) (some root) true ≠ nameOf (.inFolder p₂) (some root) true := by
  have hsome : ∀ {ns ms}, ns ∈ found → ms ∈ found → ns ≠ ms → ns ≠ [] := by
    rintro ns ms hns hms hne rfl
    rw [(h.searched.alone hns).1, List.mem_singleton] at hms
    exact hne hms.symm
  have hnil₁ := hsome hns₁ hns₂ hne
  have hnil₂ := hsome hns₂ hns₁ hne.symm
  have hbelow₁ := h.folderBelow hwf htext hns₁ hp₁ (.inl hnil₁)
  have hbelow₂ := h.folderBelow hwf htext hns₂ hp₂ (.inl hnil₂)
  refine ⟨hbelow₁, hbelow₂, fun heq => hne ?_⟩
  have hplain : ∀ {ns}, ns ∈ found → ∀ n ∈ ns, n ≠ [] ∧ Path.slash ∉ n := fun hns n hn =>
    have hproper := h.searched.isProper hwf hns n hn
    ⟨hproper.ne_nil, hproper.slash_notMem⟩
  rw [← Path.segments_joinWith (hplain hns₁), ← hbelow₁.ofString_eq hnil₁, heq,
    hbelow₂.ofString_eq hnil₂, Path.segments_joinWith (hplain hns₂)]

/-- Where names are text, two image directories of a plan have different scoped copies below every
root but two. On the default registry alone, a directory of one name has the copy of the directory
of the same name in the official namespace. Without a root, two directories have one copy if their
names are completed to the same host and path. -/
theorem resolve_folder_copies (s : Services σ) (access : Access) (source : String)
    (cut : Option Nat) (w w' : World σ) (plan : Plan) (hwf : w.tree.WellFormed)
    (htext : w.tree.TextNamed)
    (h : (resolve s access source .folder).run cut w = (some (.ok plan), w')) (root : String) :
    ∃ b, plan.batches = [b] ∧ ∀ x ∈ b.images, ∀ y ∈ b.images, x ≠ y →
      ∀ (t₁ t₁' t₂ t₂' : FileTree) (image₁ image₂ : Image),
        let name₁ := nameOf x b.base true
        let name₂ := nameOf y b.base true
        prepare t₁ (join root name₁) .registry = (.ok image₁, t₁') →
        prepare t₂ (join root name₂) .registry = (.ok image₂, t₂') →
        (root ≠ "" → (image₁ = image₂ ↔ IsDefaultRegistry root ∧
          (Abbreviates name₁.toList name₂.toList ∨ Abbreviates name₂.toList name₁.toList))) ∧
        (root = "" → (image₁ = image₂ ↔ MeansSame name₁.toList name₂.toList)) := by
  obtain ⟨folder, d, found, hlists⟩ := exists_listsFolders hwf h
  obtain ⟨b, hbatches, hbase, himages⟩ := hlists.batch
  have hfolder := hlists.isRoot hwf
  refine ⟨b, hbatches, ?_⟩
  intro x hx y hy hxy t₁ t₁' t₂ t₂' image₁ image₂ name₁ name₂ h₁ h₂
  obtain ⟨ns₁, hns₁, hx⟩ := himages x hx
  obtain ⟨ns₂, hns₂, hy⟩ := himages y hy
  have hne : ns₁ ≠ ns₂ := by
    rintro rfl
    exact hxy (Except.ok.inj (hx.symm.trans hy))
  obtain ⟨p₁, rfl, -, hp₁⟩ :=
    hfolder.exists_of_ofFolder hwf (hlists.searched.isProper hwf hns₁) hx
  obtain ⟨p₂, rfl, -, hp₂⟩ :=
    hfolder.exists_of_ofFolder hwf (hlists.searched.isProper hwf hns₂) hy
  obtain ⟨hbelow₁, hbelow₂, hnames⟩ := hlists.nameOf_ne hwf htext hns₁ hns₂ hne hp₁ hp₂
  rw [← hbase] at hbelow₁ hbelow₂ hnames
  obtain ⟨r₁, hparse₁, rfl⟩ := Destination.of_prepare_registry h₁
  obtain ⟨r₂, hparse₂, rfl⟩ := Destination.of_prepare_registry h₂
  have hsame : r₁ = r₂ ↔
      MeansSame (stem root.toList ++ name₁.toList) (stem root.toList ++ name₂.toList) := by
    rw [← hbelow₁.toList_join root, ← hbelow₂.toList_join root]
    exact Reference.eq_iff_meansSame hparse₁ hparse₂
  rw [Image.inRegistry.injEq, hsame]
  constructor
  · intro hroot
    have hne : name₁.toList ≠ name₂.toList := fun heq => hnames (String.toList_inj.1 heq)
    rw [Destination.meansSame_stem_iff hroot, or_iff_right hne]
  · rintro rfl
    exact Iff.rfl

namespace Official

def app : Name := Path.ofString "app:v1"

def library : Name := Path.ofString "library"

/-- Two images, of which one lies in a directory that is called like the official namespace. -/
def tree : FileTree where
  entries := [([app], .folder), ([app, manifestName], .file []), ([library], .folder),
    ([library, app], .folder), ([library, app, manifestName], .file [])]
  home := []

def world : World Unit := { now := 0, tree := tree, journal := [], services := () }

theorem wellFormed_tree : tree.WellFormed := by
  refine ⟨⟨?nodup, ?proper, ?inFolder, ?home⟩, rfl⟩
  case nodup => decide
  case proper =>
    have happ : Path.IsProper app := by constructor <;> decide
    have hlibrary : Path.IsProper library := by constructor <;> decide
    have hmanifest : Path.IsProper manifestName := by constructor <;> decide
    simp [tree, happ, hlibrary, hmanifest]
  case inFolder => decide
  case home => rfl

theorem textNamed_tree : tree.TextNamed := by
  have happ : Path.IsText app := Path.isText_ofString "app:v1"
  have hlibrary : Path.IsText library := Path.isText_ofString "library"
  have hmanifest : Path.IsText manifestName := Path.isText_ofString "manifest.json"
  simp [FileTree.TextNamed, tree, happ, hlibrary, hmanifest]

def short : Image := .inFolder (Path.ofString "/app:v1")

def long : Image := .inFolder (Path.ofString "/library/app:v1")

def batch : Batch := { images := [short, long], access := {}, base := some (Path.ofString "/") }

theorem outermost_root :
    tree.outermost (Path.ofString "/") [] = [[app], [library, app]] := by
  have hentries : tree.entries.filterMap (FileTree.child? []) =
      [(app, .folder), (library, .folder)] := by decide
  have hroot : FileTree.subfolders (tree.children []) = [app, library] := by
    rw [FileTree.children, hentries, List.mergeSort_of_pairwise (by decide +kernel)]
    rfl
  have happ : tree.outermostBelow
      (fun ns => tree.holdsImage (Path.below (Path.ofString "/") (app :: ns))) tree.height
        ([] ++ [app]) = [[]] := by decide +kernel
  have hlibrary : tree.outermostBelow
      (fun ns => tree.holdsImage (Path.below (Path.ofString "/") (library :: ns))) tree.height
        ([] ++ [library]) = [[app]] := by decide +kernel
  have hno : ¬tree.holdsImage (Path.ofString "/") = true := by decide +kernel
  rw [FileTree.outermost_eq, if_neg hno, FileTree.outermostWithin, FileTree.within, hroot,
    List.flatMap_cons, List.flatMap_cons, happ, hlibrary]
  rfl

/-- The plan of the working directory. -/
theorem exists_run :
    ∃ plan w',
    (resolve OddTags.services {} "." .folder).run none world = (some (.ok plan), w') ∧
      plan.batches = [batch] := by
  have hroot : tree.find (Path.ofString "/") false = .ok ([], .folder) := rfl
  have hread : tree.Readable (Path.ofString "/") [] :=
    FileTree.readable_of_entries rfl (by decide)
  have hfound : tree.findImages (Path.ofString "/") =
      .ok [Path.ofString "/app:v1", Path.ofString "/library/app:v1"] := by
    rw [FileTree.findImages_of_folder wellFormed_tree.toClosed (wellFormed_tree.endsKept _) hread
      hroot, outermost_root]
    rfl
  have hstat : tree.stat (Path.ofString ".") = .ok .folder := rfl
  have habsolute : Path.absolute? tree.homePath (Path.ofString ".") = .ok (Path.ofString "/") := rfl
  have hshort : Image.ofFolder tree (Path.ofString "/app:v1") = .ok short := rfl
  have hlong : Image.ofFolder tree (Path.ofString "/library/app:v1") = .ok long := rfl
  have hsearch : searchFolder world.tree "." =
      .ok (Path.ofString "/", [Path.ofString "/app:v1", Path.ofString "/library/app:v1"]) := by
    simp only [world, searchFolder, hstat, wellFormed_tree.absolute?_eq, habsolute, hfound]
  have himages : [Path.ofString "/app:v1", Path.ofString "/library/app:v1"].mapM
      (Image.ofFolder world.tree) = .ok [short, long] := by
    simp only [world, List.mapM_cons, hshort, hlong, List.mapM_nil]
    rfl
  obtain ⟨w', hrun⟩ : ∃ w', (ofFolder {} ".").run none world =
      (some (.ok (empty.add batch)), w') := exists_run_ofFolder hsearch himages (by simp)
  refine ⟨_, w', hrun, ?_⟩
  rw [batches_add, if_neg (by simp [batch])]
  rfl

theorem nameOf_short : nameOf short batch.base true = "app:v1" := by decide +kernel

theorem nameOf_long : nameOf long batch.base true = "library/app:v1" := by decide +kernel

end Official

open Official in
/-- Below a repository of another registry the two images have different copies. -/
theorem resolve_folder_copies_mirror :
    let t : FileTree := .empty
    ∃ plan w', (resolve OddTags.services {} "." .folder).run none world = (some (.ok plan), w') ∧
      plan.batches = [batch] ∧ ∃ image₁ image₂,
        prepare t (join "mirror.io/" (nameOf short batch.base true)) .registry =
          (.ok image₁, t) ∧
        prepare t (join "mirror.io/" (nameOf long batch.base true)) .registry =
          (.ok image₂, t) ∧ image₁ ≠ image₂ := by
  intro t
  obtain ⟨plan, w', hrun, hbatches⟩ := exists_run
  have hshort : prepare t (join "mirror.io/" (nameOf short batch.base true)) .registry =
      (.ok (.inRegistry ⟨"mirror.io", "app", some "v1", none⟩), t) := by
    rw [nameOf_short]
    exact Prod.ext (Reference.eq_ok_of_toOption (by decide +kernel))
      (Destination.prepare_registry_tree t _)
  have hlong : prepare t (join "mirror.io/" (nameOf long batch.base true)) .registry =
      (.ok (.inRegistry ⟨"mirror.io", "library/app", some "v1", none⟩), t) := by
    rw [nameOf_long]
    exact Prod.ext (Reference.eq_ok_of_toOption (by decide +kernel))
      (Destination.prepare_registry_tree t _)
  obtain ⟨b, hb, hcopies⟩ := resolve_folder_copies OddTags.services {} "." none world w' plan
    wellFormed_tree textNamed_tree hrun "mirror.io/"
  obtain rfl : batch = b := by simpa [hbatches] using hb
  have hother : ¬IsDefaultRegistry "mirror.io/" := by
    unfold IsDefaultRegistry
    decide
  have hdiffer := (hcopies short (by simp [batch]) long (by simp [batch]) (by decide) t t t t _ _
    hshort hlong).1 (by decide)
  exact ⟨plan, w', hrun, hbatches, _, _, hshort, hlong, fun heq => hother (hdiffer.1 heq).1⟩

open Official in
/-- On the default registry they have one copy. -/
theorem resolve_folder_copies_merged :
    let t : FileTree := .empty
    let copy : Image := .inRegistry ⟨"docker.io", "library/app", some "v1", none⟩
    tree.WellFormed ∧ tree.TextNamed ∧
      (∃ plan w', (resolve OddTags.services {} "." .folder).run none world =
        (some (.ok plan), w') ∧ plan.batches = [batch]) ∧
      short ∈ batch.images ∧ long ∈ batch.images ∧ short ≠ long ∧
      prepare t (join "docker.io" (nameOf short batch.base true)) .registry = (.ok copy, t) ∧
      prepare t (join "docker.io" (nameOf long batch.base true)) .registry = (.ok copy, t) := by
  intro t copy
  refine ⟨wellFormed_tree, textNamed_tree, exists_run, by simp [batch], by simp [batch], by decide,
    ?_, ?_⟩
  · rw [nameOf_short]
    exact Prod.ext (Reference.eq_ok_of_toOption (by decide +kernel))
      (Destination.prepare_registry_tree t _)
  · rw [nameOf_long]
    exact Prod.ext (Reference.eq_ok_of_toOption (by decide +kernel))
      (Destination.prepare_registry_tree t _)

end ImageSync.Plan
