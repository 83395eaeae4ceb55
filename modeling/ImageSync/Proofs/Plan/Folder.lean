import ImageSync.Plan.Resolve
import ImageSync.Proofs.Export.Place
import ImageSync.Proofs.Files.Source

/-!
# How image directories are called

A plan of a directory lists image directories at and below it. One that lies below is called by its
names from there on, which are the end of its path. The directory itself has the last name of its
path made absolute, but such a path may end in `..` or be the root: then there is no name, and the
copy is put at the root of the destination instead of below.

## Main definitions

* `FileTree.TextNamed`: trees in which all names are text.
* `Plan.ListsFolders t source plan root d found`: what a plan of a directory lists.
* `Destination.FolderNames root d ns names`: the names after which an image directory is called.

## Main statements

* `Plan.exists_listsFolders`: every plan of a directory lists what a search has found.
* `Plan.resolve_folder_names`: how the images of a plan of a directory are called.
-/

namespace ImageSync

open Text
open Text.Utf8 (Piece)

/-! ## Names that are text -/

/-- Whether a path has nothing but characters. -/
def Path.IsText (p : Path) : Prop := ∀ c ∈ p, ∃ char, c = Piece.char char

theorem Path.isText_ofString (s : String) : Path.IsText (Path.ofString s) := by
  intro c hc
  obtain ⟨char, -, rfl⟩ := List.mem_map.1 hc
  exact ⟨char, rfl⟩

/-- A text is displayed without loss. -/
theorem Path.ofString_shown {p : Path} (h : Path.IsText p) : Path.ofString p.shown = p := by
  induction p with
  | nil => rfl
  | cons c p ih =>
      obtain ⟨char, rfl⟩ := h c List.mem_cons_self
      have hrest := ih fun d hd => h d (List.mem_cons_of_mem _ hd)
      simpa [ofString, shown] using hrest

theorem Path.isText_joinWith {ns : List Name} (h : ∀ n ∈ ns, Path.IsText n) :
    Path.IsText (joinWith Path.slash ns) := by
  induction ns with
  | nil => simp [Path.IsText, joinWith]
  | cons n ns ih =>
      have hn := h n List.mem_cons_self
      have hns := ih fun m hm => h m (List.mem_cons_of_mem n hm)
      cases ns with
      | nil => exact hn
      | cons m ns =>
          rw [joinWith]
          · exact List.forall_mem_append.2 ⟨hn, List.forall_mem_cons.2 ⟨⟨'/', rfl⟩, hns⟩⟩
          · simp

/-- Trees in which all names are text. -/
def FileTree.TextNamed (t : FileTree) : Prop := ∀ p ∈ t.entries, ∀ n ∈ p.1, Path.IsText n

theorem FileTree.TextNamed.of_get? {t : FileTree} (h : t.TextNamed) {a : Place} {e : Entry}
    (ha : t.get? a = some e) : ∀ n ∈ a, Path.IsText n := by
  cases a with
  | nil => simp
  | cons n a => exact h _ (mem_entries_of_get? (by simp) ha)

/-! ## What a plan of a directory lists -/

namespace Plan

variable {σ : Type} {t : FileTree} {access : Access} {source : String} {plan : Plan} {root : Path}
  {d : Place} {found : List (List Name)} {cut : Option Nat} {w w' : World σ}

/-- A plan lists the image directories that a search of a directory has found. The source leads to
the directory `d`, and `root` is its path made absolute. -/
structure ListsFolders (t : FileTree) (source : String) (plan : Plan) (root : Path) (d : Place)
    (found : List (List Name)) : Prop where
  absolute : Path.absolute? t.homePath (Path.ofString source) = .ok root
  leads : t.find (Path.ofString source) true = .ok (d, .folder)
  searched : t.Searched root d found
  batch : ∃ b, plan.batches = [b] ∧ b.base = some root ∧
    ∀ image ∈ b.images, ∃ ns ∈ found, Image.ofFolder t (root.below ns) = .ok image

theorem searchFolder_eq_ok {paths : List Path} (h : searchFolder t source = .ok (root, paths)) :
    (∃ e, t.stat (Path.ofString source) = .ok e) ∧
      Path.absolute? t.homePath (Path.ofString source) = .ok root ∧
      t.findImages root = .ok paths := by
  rw [searchFolder] at h
  cases hstat : t.stat (Path.ofString source) with
  | error e => simp [hstat] at h
  | ok e =>
      cases habsolute : t.absolute? (Path.ofString source) with
      | error e => simp [hstat, habsolute] at h
      | ok root' =>
          cases hfound : t.findImages root' with
          | error e => simp [hstat, habsolute, hfound] at h
          | ok paths' =>
              simp only [hstat, habsolute, hfound, Except.ok.injEq, Prod.mk.injEq] at h
              obtain ⟨rfl, rfl⟩ := h
              exact ⟨⟨e, rfl⟩, FileTree.of_absolute?_eq_ok habsolute, hfound⟩

theorem exists_of_mem_mapM_ok {α β ε : Type} {f : α → Except ε β} {l : List α} {bs : List β} {b : β}
    (h : l.mapM f = .ok bs) (hb : b ∈ bs) : ∃ a ∈ l, f a = .ok b := by
  induction l generalizing bs with
  | nil =>
      cases h
      cases hb
  | cons a l ih =>
      rw [List.mapM_cons] at h
      cases ha : f a with
      | error e =>
          rw [ha] at h
          cases h
      | ok b' =>
          cases hrest : l.mapM f with
          | error e =>
              rw [ha, hrest] at h
              cases h
          | ok rest =>
              rw [ha, hrest] at h
              cases h
              rcases List.mem_cons.1 hb with rfl | hb
              · exact ⟨a, List.mem_cons_self, ha⟩
              · obtain ⟨a', ha', hfa'⟩ := ih hrest hb
                exact ⟨a', List.mem_cons_of_mem a ha', hfa'⟩

/-- A plan of a directory has one batch, with an image for each directory that was found. -/
theorem of_run_ofFolder (h : (ofFolder access source).run cut w = (some (.ok plan), w')) :
    ∃ root paths images, searchFolder w.tree source = .ok (root, paths) ∧
      paths.mapM (Image.ofFolder w.tree) = .ok images ∧ images ≠ [] ∧
      plan.batches = [{ images := images, access := access, base := some root }] := by
  obtain ⟨w₀, w₁, hworld, h⟩ := Work.of_run_bind_eq_some h
  cases hworld
  cases hsearch : searchFolder w.tree source with
  | error e =>
      simp only [hsearch] at h
      cases h
  | ok result =>
      obtain ⟨root, paths⟩ := result
      simp only [hsearch] at h
      cases himages : paths.mapM (Image.ofFolder w.tree) with
      | error e =>
          simp only [himages] at h
          cases h
      | ok images =>
          simp only [himages] at h
          by_cases hnone : images.isEmpty = true
          · rw [if_pos hnone] at h
            cases h
          · rw [if_neg hnone] at h
            obtain ⟨-, -, -, h⟩ := Work.of_run_bind_eq_some h
            cases h
            have hne : images ≠ [] := by simpa using hnone
            refine ⟨root, paths, images, rfl, himages, hne, ?_⟩
            rw [batches_add, if_neg hne]
            rfl

/-- Every plan of a directory lists what a search has found. -/
theorem exists_listsFolders (hwf : w.tree.WellFormed)
    (h : (ofFolder access source).run cut w = (some (.ok plan), w')) :
    ∃ root d found, ListsFolders w.tree source plan root d found := by
  obtain ⟨root, paths, images, hsearch, himages, himagesne, hplan⟩ := of_run_ofFolder h
  obtain ⟨⟨e, hstat⟩, habsolute, hpaths⟩ := searchFolder_eq_ok hsearch
  have hne : paths ≠ [] := by
    rintro rfl
    cases himages
    exact himagesne rfl
  obtain ⟨d, found, rfl, hsearched⟩ := FileTree.exists_searched hwf hpaths hne
  refine ⟨root, d, found, habsolute, ?_, hsearched, _, hplan, rfl, fun image himage => ?_⟩
  · obtain ⟨place, hfind⟩ := FileTree.exists_find_of_stat hstat
    exact hwf.find_of_absolute habsolute hsearched.leads hfind
  · obtain ⟨p, hp, himage⟩ := exists_of_mem_mapM_ok himages himage
    obtain ⟨ns, hns, rfl⟩ := List.mem_map.1 hp
    exact ⟨ns, hns, himage⟩

theorem exists_run_ofFolder {paths : List Path} {images : List Image}
    (hsearch : searchFolder w.tree source = .ok (root, paths))
    (himages : paths.mapM (Image.ofFolder w.tree) = .ok images) (hne : images ≠ []) :
    ∃ w', (ofFolder access source).run cut w =
      (some (.ok (empty.add { images := images, access := access, base := some root })), w') := by
  have hnone : ¬images.isEmpty = true := by simpa using hne
  rw [ofFolder, Work.run_bind_of_some (Work.run_world cut w)]
  simp only [hsearch, himages, if_neg hnone]
  exact ⟨_, rfl⟩

/-- The path of a directory that was searched. -/
structure IsRoot (t : FileTree) (source : String) (root : Path) : Prop where
  isAbsolute : Path.isAbsolute root = true
  nul_notMem : Path.nul ∉ root
  segments_eq : Path.segments root =
    t.origin (Path.ofString source) ++ Path.names (Path.ofString source)
  here_notMem : Path.hereName ∉ Path.segments root

theorem ListsFolders.isRoot (h : ListsFolders t source plan root d found) (hwf : t.WellFormed) :
    IsRoot t source root := by
  obtain ⟨hne, hnul⟩ := FileTree.of_checkText (FileTree.find_eq_ok_iff.1 h.leads).1
  obtain ⟨q, hq, habsolute, hnulq, hsegments, hnames⟩ := hwf.absolute?_eq_ok hne
  obtain rfl : root = q := Except.ok.inj (h.absolute.symm.trans hq)
  refine ⟨habsolute, hnulq hnul, hsegments, ?_⟩
  rw [hsegments, ← hnames]
  intro hmem
  simpa using (List.mem_filter.1 hmem).2

namespace IsRoot

variable {ns : List Name} {n : Name} {image : Image}

theorem steps_eq (h : IsRoot t source root) :
    Path.steps root = .root :: (Path.segments root).filterMap Path.Step.ofSegment := by
  rw [Path.steps, if_pos h.isAbsolute]

/-- The path of an image directory goes on behind the root with the names of the directory. -/
theorem exists_of_ofFolder (h : IsRoot t source root) (hwf : t.WellFormed)
    (hns : ∀ n ∈ ns, Path.IsProper n)
    (himage : Image.ofFolder t (root.below ns) = .ok image) :
    ∃ p, image = .inFolder p ∧ Path.segments p = Path.segments root ++ ns ∧
      Path.steps p = Path.steps root ++ ns.map .name := by
  have hbelow : Path.segments (root.below ns) = Path.segments root ++ ns :=
    Path.segments_foldl_append root fun n hn => ⟨(hns n hn).ne_nil, (hns n hn).slash_notMem⟩
  have habsolute : Path.isAbsolute (root.below ns) = true :=
    Path.isAbsolute_foldl_append h.isAbsolute ns
  have hnames : Path.names (root.below ns) = Path.segments root ++ ns := by
    rw [Path.names_eq_segments, hbelow]
    rw [hbelow]
    refine List.forall_mem_append.2 ⟨fun n hn heq => ?_, fun n hn => (hns n hn).ne_here⟩
    exact h.here_notMem (heq ▸ hn)
  have hne : root.below ns ≠ [] := by
    intro hnil
    rw [hnil] at habsolute
    cases habsolute
  obtain ⟨p, hp, hroot, -, hsegments, -⟩ := hwf.absolute?_eq_ok hne
  rw [FileTree.origin, if_pos habsolute, List.nil_append, hnames] at hsegments
  rw [Image.ofFolder, hwf.absolute?_eq, hp] at himage
  refine ⟨p, (Except.ok.inj himage).symm, hsegments, ?_⟩
  rw [Path.steps, if_pos hroot, hsegments, List.filterMap_append, Path.filterMap_ofSegment hns,
    h.steps_eq]
  rfl

theorem getLast?_of_lastName (h : IsRoot t source root) (hlast : Path.lastName? root = some n) :
    (Path.segments root).getLast? = some n ∧ n ≠ Path.upName :=
  (Path.lastName?_eq_some_iff h.isAbsolute h.here_notMem).1 hlast

theorem isProper_of_lastName (h : IsRoot t source root) (hlast : Path.lastName? root = some n) :
    Path.IsProper n := by
  obtain ⟨hmem, hup⟩ := h.getLast?_of_lastName hlast
  have hmem := List.mem_of_getLast? hmem
  constructor
  case ne_nil => exact Path.ne_nil_of_mem_segments hmem
  case slash_notMem => exact Path.slash_notMem_of_mem_segments hmem
  case nul_notMem => exact fun hc => h.nul_notMem (Path.mem_of_mem_segments hmem hc)
  case ne_here =>
    rintro rfl
    exact h.here_notMem hmem
  case ne_up => exact hup

theorem isText_of_lastName (h : IsRoot t source root) (hwf : t.WellFormed) (htext : t.TextNamed)
    (hlast : Path.lastName? root = some n) : Path.IsText n := by
  have hmem := List.mem_of_getLast? (h.getLast?_of_lastName hlast).1
  rw [h.segments_eq] at hmem
  rcases List.mem_append.1 hmem with hmem | hmem
  · rw [FileTree.origin] at hmem
    split at hmem
    · cases hmem
    · exact htext.of_get? hwf.get?_home n hmem
  · intro c hc
    exact Path.isText_ofString source c (Path.mem_of_mem_segments (List.mem_filter.1 hmem).1 hc)

end IsRoot

end Plan

/-! ## The names of image directories -/

namespace Destination

variable {root : Path} {d : Place} {ns names : List Name}

/-- The names after which the image directory is called that lies at the names `ns` below the
directory `d`, where `root` is the path that was searched. -/
inductive FolderNames (root : Path) (d : Place) : List Name → List Name → Prop
  | inside {ns : List Name} (hne : ns ≠ []) : FolderNames root d ns ns
  /-- The directory itself. Unless a slash ends the path, no link stands at its end. -/
  | itself {n : Name} (hlast : Path.lastName? root = some n)
      (hplace : Path.endsInSlash root = false → d.getLast? = some n) : FolderNames root d [] [n]

/-- An image directory has a name, and what has this name lies below every root. -/
structure FolderBelow (root : Path) (d : Place) (ns : List Name) (name : String) : Prop where
  ne_empty : name ≠ ""
  head_ne : name.toList.head? ≠ some '/'
  below : ∃ names, FolderNames root d ns names ∧ Path.ofString name = joinWith Path.slash names ∧
    ∀ destination, IsBelow destination (join destination name) names

theorem folderBelow_of_names {name : String} (hnames : FolderNames root d ns names)
    (hne : names ≠ []) (hproper : ∀ n ∈ names, Path.IsProper n)
    (hname : Path.ofString name = joinWith Path.slash names) : FolderBelow root d ns name := by
  have hplain : ∀ n ∈ names, n ≠ [] ∧ Path.slash ∉ n := fun n hn =>
    ⟨(hproper n hn).ne_nil, (hproper n hn).slash_notMem⟩
  have hbelow : ∀ destination, IsBelow destination (join destination name) names :=
    fun destination => isBelow_join destination hne hproper hname
  refine ⟨?_, ?_, names, hnames, hname, hbelow⟩
  · rintro rfl
    have hsegments := Path.segments_joinWith hplain
    rw [← hname] at hsegments
    exact hne hsegments.symm
  · intro hhead
    have hrelative := Path.isAbsolute_joinWith hplain
    rw [← hname, Path.isAbsolute, Path.ofString, List.head?_map, hhead] at hrelative
    exact absurd hrelative (by decide)

end Destination

namespace Plan

variable {σ : Type} {t : FileTree} {source : String} {plan : Plan} {root p : Path} {d : Place}
  {found : List (List Name)} {ns : List Name}

open Destination (nameOf join FolderNames FolderBelow)

/-- An image directory has a name, unless it was itself searched by a path without a last name. -/
theorem ListsFolders.folderBelow (h : ListsFolders t source plan root d found) (hwf : t.WellFormed)
    (htext : t.TextNamed) (hns : ns ∈ found)
    (hp : Path.steps p = Path.steps root ++ ns.map .name)
    (hnamed : ns ≠ [] ∨ Path.lastName? root ≠ none) :
    FolderBelow root d ns (nameOf (.inFolder p) (some root) true) := by
  have hroot := h.isRoot hwf
  have hproper := h.searched.isProper hwf hns
  have hname : nameOf (.inFolder p) (some root) true =
      Path.shown (if ns = [] then (Path.lastName? root).getD [] else joinWith Path.slash ns) := by
    rw [nameOf, Destination.folderName_of_steps (by simp [hroot.steps_eq]) hp hproper]
    rfl
  by_cases hnil : ns = []
  · subst hnil
    obtain ⟨n, hlast⟩ := Option.ne_none_iff_exists'.1 (hnamed.resolve_left (by simp))
    obtain ⟨hsegment, hup⟩ := hroot.getLast?_of_lastName hlast
    have hn := hroot.isProper_of_lastName hlast
    have hplace : Path.endsInSlash root = false → d.getLast? = some n := fun hend =>
      (FileTree.find_of_false (h.searched.alone hns).2).2 hend n hsegment hn.ne_here hup
    refine Destination.folderBelow_of_names (.itself hlast hplace) (by simp) (by simpa using hn) ?_
    rw [hname, if_pos rfl, hlast, Option.getD_some,
      Path.ofString_shown (hroot.isText_of_lastName hwf htext hlast)]
    rfl
  · have htexts : ∀ n ∈ ns, Path.IsText n := fun n hn =>
      htext.of_get? (h.searched.image ns hns).1 n (List.mem_append_right d hn)
    refine Destination.folderBelow_of_names (.inside hnil) hnil hproper ?_
    rw [hname, if_neg hnil, Path.ofString_shown (Path.isText_joinWith htexts)]

/-- Without a last name of the path that was searched, the directory itself has no name. -/
theorem nameOf_eq_empty (hroot : Path.steps root ≠ []) (hp : Path.steps p = Path.steps root)
    (hlast : Path.lastName? root = none) : nameOf (.inFolder p) (some root) true = "" := by
  have hnone : Path.steps p = Path.steps root ++ ([] : List Name).map .name := by simpa using hp
  rw [nameOf, Destination.folderName_of_steps hroot hnone (by simp), hlast]
  rfl

theorem join_empty (destination : String) : join destination "" = destination := by
  rw [← String.toList_inj, join, String.toList_ofList, Destination.joinChars]
  by_cases hempty : destination = "" <;> simp [hempty]

/-- Where names are text, an image directory of a plan is called by its names from the directory on
that was searched, and that directory itself by the last name of its path made absolute. Then a copy
lies below every root. Only if there is no such name, because the path is the root or ends in `..`,
the copy of the directory itself is put at the root. -/
theorem resolve_folder_names (s : Services σ) (access : Access) (source : String)
    (cut : Option Nat) (w w' : World σ) (plan : Plan) (hwf : w.tree.WellFormed)
    (htext : w.tree.TextNamed)
    (h : (resolve s access source .folder).run cut w = (some (.ok plan), w')) :
    ∃ b root d, plan.batches = [b] ∧ b.base = some root ∧
      Path.absolute? w.tree.homePath (Path.ofString source) = .ok root ∧
      w.tree.find (Path.ofString source) true = .ok (d, .folder) ∧
      ∀ image ∈ b.images, ∃ p ns, image = .inFolder p ∧
        Path.segments p = Path.segments root ++ ns ∧
        w.tree.get? (d ++ ns) = some .folder ∧ w.tree.holdsImage (root.below ns) = true ∧
        (ns ≠ [] ∨ Path.lastName? root ≠ none → FolderBelow root d ns (nameOf image b.base true)) ∧
        (ns = [] → Path.lastName? root = none → nameOf image b.base true = "" ∧
          ∀ destination, join destination (nameOf image b.base true) = destination) := by
  obtain ⟨root, d, found, hlists⟩ := exists_listsFolders hwf h
  obtain ⟨b, hbatches, hbase, himages⟩ := hlists.batch
  have hroot := hlists.isRoot hwf
  refine ⟨b, root, d, hbatches, hbase, hlists.absolute, hlists.leads, fun image himage => ?_⟩
  obtain ⟨ns, hns, himage⟩ := himages image himage
  obtain ⟨p, rfl, hsegments, hsteps⟩ :=
    hroot.exists_of_ofFolder hwf (hlists.searched.isProper hwf hns) himage
  obtain ⟨hfolder, hholds⟩ := hlists.searched.image ns hns
  rw [hbase]
  refine ⟨p, ns, rfl, hsegments, hfolder, hholds, hlists.folderBelow hwf htext hns hsteps, ?_⟩
  rintro rfl hlast
  have hempty := nameOf_eq_empty (by simp [hroot.steps_eq]) (by simpa using hsteps) hlast
  exact ⟨hempty, fun destination => by rw [hempty, join_empty]⟩

namespace Subdirectory

def app : Name := Path.ofString "app:v1"

def blobs : Name := Path.ofString "blobs"

/-- An image with a directory in it. -/
def tree : FileTree where
  entries := [([app], .folder), ([app, manifestName], .file []), ([app, blobs], .folder)]
  home := []

def world : World Unit := { now := 0, tree := tree, journal := [], services := () }

theorem wellFormed_tree : tree.WellFormed := by
  refine ⟨⟨?nodup, ?proper, ?inFolder, ?home⟩, rfl⟩
  case nodup => decide
  case proper =>
    have happ : Path.IsProper app := by constructor <;> decide
    have hblobs : Path.IsProper blobs := by constructor <;> decide
    have hmanifest : Path.IsProper manifestName := by constructor <;> decide
    simp [tree, happ, hblobs, hmanifest]
  case inFolder => decide
  case home => rfl

theorem textNamed_tree : tree.TextNamed := by
  have happ : Path.IsText app := Path.isText_ofString "app:v1"
  have hblobs : Path.IsText blobs := Path.isText_ofString "blobs"
  have hmanifest : Path.IsText manifestName := Path.isText_ofString "manifest.json"
  simp [FileTree.TextNamed, tree, happ, hblobs, hmanifest]

/-- Searched by a path to it, the image is the only one. -/
theorem exists_run {source : String} {root : Path}
    (hsource : tree.stat (Path.ofString source) = .ok .folder)
    (habsolute : Path.absolute? tree.homePath (Path.ofString source) = .ok root)
    (hroot : tree.find root false = .ok ([app], .folder)) (hholds : tree.holdsImage root = true)
    (himage : Image.ofFolder tree root = .ok (.inFolder root)) :
    ∃ w', (resolve OddTags.services {} source .folder).run none world =
      (some (.ok (empty.add
        { images := [.inFolder root], access := {}, base := some root })), w') := by
  have hfound : tree.findImages root = .ok [root] := by
    rw [FileTree.findImages, hroot]
    dsimp only
    rw [FileTree.imagesBelow, if_pos hholds]
    rfl
  have hsearch : searchFolder world.tree source = .ok (root, [root]) := by
    simp only [world, searchFolder, hsource, wellFormed_tree.absolute?_eq, habsolute, hfound]
  have himages : [root].mapM (Image.ofFolder world.tree) = .ok [.inFolder root] := by
    simp only [world, List.mapM_cons, himage, List.mapM_nil]
    rfl
  exact exists_run_ofFolder hsearch himages (by simp)

end Subdirectory

open Subdirectory in
/-- The image by its own path: it is called after its last name. -/
theorem resolve_folder_names_own :
    ∃ plan w', (resolve OddTags.services {} "app:v1" .folder).run none world =
        (some (.ok plan), w') ∧
      ∃ b root, plan.batches = [b] ∧ Path.lastName? root = some app ∧
        ∀ image ∈ b.images, ∃ ns, FolderBelow root [app] ns (nameOf image b.base true) := by
  have habsolute : Path.absolute? tree.homePath (Path.ofString "app:v1") =
      .ok (Path.ofString "/app:v1") := rfl
  obtain ⟨w', hrun⟩ := exists_run (by rfl) habsolute rfl rfl rfl
  obtain ⟨b, root, d, hbatches, -, hroot, hleads, hbelow⟩ :=
    resolve_folder_names OddTags.services {} "app:v1" none world w' _ wellFormed_tree
      textNamed_tree hrun
  have hplace : tree.find (Path.ofString "app:v1") true = .ok ([app], .folder) := rfl
  obtain rfl : Path.ofString "/app:v1" = root := Except.ok.inj (habsolute.symm.trans hroot)
  obtain rfl : [app] = d := congrArg Prod.fst (Except.ok.inj (hplace.symm.trans hleads))
  have hlast : Path.lastName? (Path.ofString "/app:v1") = some app := by decide
  refine ⟨_, w', hrun, b, _, hbatches, hlast, fun image himage => ?_⟩
  obtain ⟨p, ns, -, -, -, -, hnamed, -⟩ := hbelow image himage
  exact ⟨ns, hnamed (.inr (by simp [hlast]))⟩

open Subdirectory in
/-- The same image by way of the directory in it: it has no name, so its copy is put at the root of
the destination. -/
theorem resolve_folder_names_up :
    let root := Path.ofString "/app:v1/blobs/.."
    tree.WellFormed ∧ tree.TextNamed ∧
      tree.find (Path.ofString "app:v1/blobs/..") true = .ok ([app], .folder) ∧
      (∃ plan w', (resolve OddTags.services {} "app:v1/blobs/.." .folder).run none world =
          (some (.ok plan), w') ∧
        plan.batches = [{ images := [.inFolder root], access := {}, base := some root }]) ∧
      nameOf (.inFolder root) (some root) true = "" ∧
      join "mirror.io/lib" (nameOf (.inFolder root) (some root) true) = "mirror.io/lib" := by
  intro root
  have habsolute : Path.absolute? tree.homePath (Path.ofString "app:v1/blobs/..") = .ok root := rfl
  obtain ⟨w', hrun⟩ := exists_run (by rfl) habsolute rfl rfl rfl
  have hempty : nameOf (.inFolder root) (some root) true = "" :=
    nameOf_eq_empty (by decide) rfl (by decide)
  refine ⟨wellFormed_tree, textNamed_tree, rfl, ⟨_, w', hrun, ?_⟩, hempty, ?_⟩
  · rw [batches_add, if_neg (by simp)]
    rfl
  · rw [hempty, join_empty]

end Plan

end ImageSync
