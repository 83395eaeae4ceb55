import ImageSync.Files.Images
import ImageSync.Proofs.Files.Walk
import Mathlib.Data.List.Nodup

/-!
# The image directories that are found

The search asks for directories and manifests by their whole paths, which can be too long or lead
through too many links. What it finds, if it comes to its end, are the outermost images, those with
no image above them, and each of them once. It comes to its end if every directory can be read.

## Main definitions

* `FileTree.Outermost t images a ns`: the names lead from `a` through directories to an outermost
  image, if `images` says which names lead to an image.
* `FileTree.outermostBelow t images depth a`: all of them.
* `FileTree.Readable t p d`: the directories below `d` can be read by their paths from `p` on.

## Main statements

* `FileTree.eq_outermostBelow`, `FileTree.imagesBelow_eq`: what a search finds.
* `FileTree.findImages_eq`: what is found below a path.
-/

namespace ImageSync

open Text

namespace FileTree

variable {t : FileTree} {a b : Place} {n : Name} {ns : List Name} {e : Entry} {p : Path}
  {images : List Name → Bool}

theorem isProper_manifestName : Path.IsProper manifestName := by
  constructor <;> decide

/-! ## Outermost images -/

/-- The names lead from the directory `a` through directories to an image, and no directory on the
way is one. -/
inductive Outermost (t : FileTree) : (List Name → Bool) → Place → List Name → Prop
  | here {images : List Name → Bool} {a : Place} (h : images [] = true) : Outermost t images a []
  | into {images : List Name → Bool} {a : Place} {n : Name} {ns : List Name}
      (hno : images [] = false) (hget : t.get? (a ++ [n]) = some .folder)
      (h : Outermost t (fun ms => images (n :: ms)) (a ++ [n]) ns) :
      Outermost t images a (n :: ns)

theorem Outermost.get? (h : t.Outermost images a ns) (hne : ns ≠ []) :
    t.get? (a ++ ns) = some .folder := by
  induction h with
  | here h => exact absurd rfl hne
  | @into images a n ns _ hget _ ih =>
      by_cases hns : ns = []
      · simpa [hns] using hget
      · simpa using ih hns

theorem Outermost.folder_of_prefix (ha : t.get? a = some .folder) (h : t.Outermost images a ns)
    {q : List Name} (hq : q <+: ns) : t.get? (a ++ q) = some .folder := by
  induction h generalizing q with
  | here _ => simpa [List.prefix_nil.1 hq] using ha
  | @into images a n ns _ hget _ ih =>
      cases q with
      | nil => simpa using ha
      | cons m q =>
          obtain ⟨rfl, hrest⟩ := List.cons_prefix_cons.1 hq
          simpa using ih hget hrest

/-- Directories lead to an image, none of which is one itself. -/
theorem outermost_of (hfolders : ∀ q, q ≠ [] → q <+: ns → t.get? (a ++ q) = some .folder)
    (hno : ∀ q, q ≠ ns → q <+: ns → images q = false) (hholds : images ns = true) :
    t.Outermost images a ns := by
  induction ns generalizing a images with
  | nil => exact .here hholds
  | cons n ns ih =>
      have hfirst : images [] = false := hno [] (by simp) List.nil_prefix
      have hget : t.get? (a ++ [n]) = some .folder := hfolders [n] (by simp) ⟨ns, rfl⟩
      refine .into hfirst hget (ih (fun q hq hpre => ?_) (fun q hq hpre => ?_) hholds)
      · simpa using hfolders (n :: q) (by simp) ((List.prefix_cons_inj n).2 hpre)
      · exact hno (n :: q) (by simpa using hq) ((List.prefix_cons_inj n).2 hpre)

/-- No directory above an outermost image is an image. -/
theorem Outermost.image_eq_false (h : t.Outermost images a ns) {q : List Name} (hq : q ≠ ns)
    (hpre : q <+: ns) : images q = false := by
  induction h generalizing q with
  | here h => exact absurd (List.prefix_nil.1 hpre) hq
  | @into images a n ns hno _ _ ih =>
      cases q with
      | nil => exact hno
      | cons m q =>
          obtain ⟨rfl, hrest⟩ := List.cons_prefix_cons.1 hpre
          exact ih (fun heq => hq (by rw [heq])) hrest

theorem Outermost.image (h : t.Outermost images a ns) : images ns = true := by
  induction h with
  | here h => exact h
  | into _ _ _ ih => exact ih

/-! ## The directories in a directory -/

theorem child?_eq_some_iff {p : Place × Entry} {child : Name × Entry} :
    child? a p = some child ↔ p = (a ++ [child.1], child.2) := by
  obtain ⟨q, e⟩ := p
  obtain ⟨n, e'⟩ := child
  rcases List.eq_nil_or_concat q with rfl | ⟨front, m, rfl⟩
  · simp [child?]
  · simp [child?, and_assoc]

theorem mem_subfolders {entries : List (Name × Entry)} :
    n ∈ subfolders entries ↔ (n, Entry.folder) ∈ entries := by
  unfold subfolders
  rw [List.mem_filterMap]
  constructor
  · rintro ⟨⟨m, e⟩, hmem, hm⟩
    dsimp only at hm
    split at hm
    · rename_i he
      cases hm
      rwa [← he]
    · cases hm
  · intro hmem
    exact ⟨(n, .folder), hmem, rfl⟩

namespace Closed

theorem mem_children_iff (h : t.Closed) :
    (n, e) ∈ t.children a ↔ t.get? (a ++ [n]) = some e := by
  rw [children, List.mem_mergeSort, List.mem_filterMap]
  constructor
  · rintro ⟨p, hmem, hp⟩
    rw [child?_eq_some_iff.1 hp] at hmem
    exact h.get?_of_mem hmem
  · intro hget
    exact ⟨(a ++ [n], e), mem_entries_of_get? (by simp) hget, child?_eq_some_iff.2 rfl⟩

theorem mem_subfolders_iff (h : t.Closed) :
    n ∈ subfolders (t.children a) ↔ t.get? (a ++ [n]) = some .folder :=
  mem_subfolders.trans h.mem_children_iff

theorem nodup_children (h : t.Closed) (a : Place) : (t.children a).Nodup := by
  rw [children, (List.mergeSort_perm _ _).nodup_iff]
  refine List.Nodup.filterMap ?_ h.nodup.of_map
  intro p p' child hp hp'
  rw [child?_eq_some_iff.1 hp, child?_eq_some_iff.1 hp']

theorem nodup_subfolders (h : t.Closed) (a : Place) :
    (subfolders (t.children a)).Nodup := by
  refine List.Nodup.filterMap ?_ (h.nodup_children a)
  rintro ⟨n, e⟩ ⟨n', e'⟩ m hm hm'
  dsimp only at hm hm'
  split at hm
  · split at hm'
    · simp_all
    · cases hm'
  · cases hm

end Closed

/-! ## All outermost images -/

/-- What `below` gives for the directories that lie directly in the directory `a`, as names from
there. -/
def within (t : FileTree) (below : Name → List (List Name)) (a : Place) : List (List Name) :=
  (subfolders (t.children a)).flatMap fun n => (below n).map (n :: ·)

/-- All outermost images at and below the directory `a`, as deep as `depth`. -/
def outermostBelow (t : FileTree) : (List Name → Bool) → Nat → Place → List (List Name)
  | images, depth, a =>
    if images [] then [[]]
    else
      match depth with
      | 0 => []
      | depth + 1 =>
        t.within (fun n => t.outermostBelow (fun ms => images (n :: ms)) depth (a ++ [n])) a

/-- Nothing but an image itself is found from it on. -/
theorem outermost_iff_eq_nil (hholds : images [] = true) : t.Outermost images a ns ↔ ns = [] := by
  constructor
  · intro h
    cases h with
    | here => rfl
    | into hno => simp [hno] at hholds
  · rintro rfl
    exact .here hholds

/-- The image lies in a directory directly in `a`. -/
def OutermostWithin (t : FileTree) (images : List Name → Bool) (a : Place) (ns : List Name) : Prop :=
  ∃ n rest, ns = n :: rest ∧ t.get? (a ++ [n]) = some .folder ∧
    t.Outermost (fun ms => images (n :: ms)) (a ++ [n]) rest

/-- From any other directory on, the images below its subdirectories are found. -/
theorem outermost_iff_within (hno : images [] = false) :
    t.Outermost images a ns ↔ t.OutermostWithin images a ns := by
  constructor
  · intro h
    cases h with
    | here hholds => simp [hno] at hholds
    | @into _ _ n rest _ hget h => exact ⟨n, rest, rfl, hget, h⟩
  · rintro ⟨n, rest, rfl, hget, h⟩
    exact .into hno hget h

theorem mem_within_iff (h : t.Closed) {below : Name → List (List Name)} :
    ns ∈ t.within below a ↔
      ∃ n rest, ns = n :: rest ∧ t.get? (a ++ [n]) = some .folder ∧ rest ∈ below n := by
  simp only [within, List.mem_flatMap, List.mem_map, h.mem_subfolders_iff]
  constructor
  · rintro ⟨n, hget, rest, hfound, rfl⟩
    exact ⟨n, rest, rfl, hget, hfound⟩
  · rintro ⟨n, rest, rfl, hget, hfound⟩
    exact ⟨n, hget, rest, hfound, rfl⟩

theorem mem_outermostBelow_iff (h : t.Closed) {depth : Nat} :
    ns ∈ t.outermostBelow images depth a ↔ t.Outermost images a ns ∧ ns.length ≤ depth := by
  induction depth generalizing images a ns with
  | zero =>
      unfold outermostBelow
      by_cases hholds : images [] = true
      · rw [if_pos hholds, List.mem_singleton, outermost_iff_eq_nil hholds]
        simp
      · rw [if_neg hholds, outermost_iff_within (by simpa using hholds)]
        constructor
        · intro hmem
          cases hmem
        · rintro ⟨⟨n, rest, rfl, -⟩, hlength⟩
          simp at hlength
  | succ depth ih =>
      unfold outermostBelow
      by_cases hholds : images [] = true
      · rw [if_pos hholds, List.mem_singleton, outermost_iff_eq_nil hholds]
        constructor
        · rintro rfl
          exact ⟨rfl, Nat.zero_le _⟩
        · rintro ⟨hnil, -⟩
          exact hnil
      · rw [if_neg hholds, mem_within_iff h, outermost_iff_within (by simpa using hholds)]
        constructor
        · rintro ⟨n, rest, rfl, hget, hrest⟩
          obtain ⟨houter, hlength⟩ := ih.1 hrest
          exact ⟨⟨n, rest, rfl, hget, houter⟩, Nat.succ_le_succ hlength⟩
        · rintro ⟨⟨n, rest, rfl, hget, houter⟩, hlength⟩
          exact ⟨n, rest, rfl, hget, ih.2 ⟨houter, Nat.le_of_succ_le_succ hlength⟩⟩

theorem nodup_within (h : t.Closed) {below : Name → List (List Name)}
    (hbelow : ∀ n, (below n).Nodup) (a : Place) : (t.within below a).Nodup := by
  unfold within
  rw [List.nodup_flatMap]
  refine ⟨fun n _ => ?_, (h.nodup_subfolders a).imp ?_⟩
  · exact (hbelow n).map fun _ _ heq => (List.cons.inj heq).2
  · intro n m hne l hl hl'
    obtain ⟨x, -, rfl⟩ := List.mem_map.1 hl
    obtain ⟨y, -, heq⟩ := List.mem_map.1 hl'
    exact hne (List.cons.inj heq).1.symm

/-- Every outermost image is there once. -/
theorem nodup_outermostBelow (h : t.Closed) (images : List Name → Bool) (depth : Nat)
    (a : Place) : (t.outermostBelow images depth a).Nodup := by
  induction depth generalizing images a with
  | zero =>
      unfold outermostBelow
      split <;> simp
  | succ depth ih =>
      unfold outermostBelow
      split
      · simp
      · exact nodup_within h (fun n => ih _ _) a

/-- It matters only which directories are images. -/
theorem outermostBelow_congr (h : t.Closed) {images' : List Name → Bool} {depth : Nat}
    (ha : t.get? a = some .folder)
    (hsame : ∀ ns, t.get? (a ++ ns) = some .folder → images ns = images' ns) :
    t.outermostBelow images depth a = t.outermostBelow images' depth a := by
  have hfirst : images [] = images' [] := hsame [] (by simpa using ha)
  induction depth generalizing images images' a with
  | zero => rw [outermostBelow, outermostBelow, hfirst]
  | succ depth ih =>
      rw [outermostBelow, outermostBelow, hfirst]
      refine ite_congr rfl (fun _ => rfl) fun _ => ?_
      refine List.flatMap_congr fun n hn => ?_
      have hget := h.mem_subfolders_iff.1 hn
      have hbelow := ih hget (fun ns hns => hsame (n :: ns) (by simpa using hns)) (hsame [n] hget)
      exact congrArg (List.map (n :: ·)) hbelow

theorem le_foldl_max {l : List Nat} {m k : Nat} (h : k ∈ l ∨ k ≤ m) : k ≤ l.foldl max m := by
  induction l generalizing m with
  | nil => simpa using h
  | cons x l ih =>
      refine ih ?_
      rcases h with h | h
      · rcases List.mem_cons.1 h with rfl | h
        · exact .inr (Nat.le_max_right m k)
        · exact .inl h
      · exact .inr (Nat.le_trans h (Nat.le_max_left m x))

theorem length_le_height (h : t.get? a = some e) : a.length ≤ t.height := by
  by_cases hne : a = []
  · simp [hne]
  · exact le_foldl_max (.inl (List.mem_map.2 ⟨_, mem_entries_of_get? hne h, rfl⟩))

theorem Outermost.length_le_height (h : t.Outermost images a ns) : ns.length ≤ t.height := by
  by_cases hne : ns = []
  · simp [hne]
  · have hle := FileTree.length_le_height (h.get? hne)
    rw [List.length_append] at hle
    omega

/-- All outermost images from a path on, by the names behind it. -/
def outermost (t : FileTree) (p : Path) (a : Place) : List (List Name) :=
  t.outermostBelow (fun ns => t.holdsImage (p.below ns)) (t.height + 1) a

/-- All outermost images from a path on but the directory that it leads to. -/
def outermostWithin (t : FileTree) (p : Path) (a : Place) : List (List Name) :=
  t.within (fun n => t.outermostBelow (fun ns => t.holdsImage (p.below (n :: ns))) t.height
    (a ++ [n])) a

/-- The directory that a path leads to is an image from there on, or the images lie within it. -/
theorem outermost_eq (t : FileTree) (p : Path) (a : Place) :
    t.outermost p a = if t.holdsImage p then [[]] else t.outermostWithin p a := by
  rw [outermost, outermostBelow]
  rfl

theorem mem_outermost_iff (h : t.Closed) :
    ns ∈ t.outermost p a ↔ t.Outermost (fun ns => t.holdsImage (p.below ns)) a ns := by
  rw [outermost, mem_outermostBelow_iff h]
  exact and_iff_left_of_imp fun houter => Nat.le_succ_of_le houter.length_le_height

theorem mem_outermostWithin_iff (h : t.Closed) :
    ns ∈ t.outermostWithin p a ↔
      t.OutermostWithin (fun ns => t.holdsImage (p.below ns)) a ns := by
  rw [outermostWithin, mem_within_iff h]
  constructor
  · rintro ⟨n, rest, rfl, hget, hrest⟩
    exact ⟨n, rest, rfl, hget, ((mem_outermostBelow_iff h).1 hrest).1⟩
  · rintro ⟨n, rest, rfl, hget, houter⟩
    exact ⟨n, rest, rfl, hget, (mem_outermostBelow_iff h).2 ⟨houter, houter.length_le_height⟩⟩

theorem nodup_outermost (h : t.Closed) (p : Path) (a : Place) : (t.outermost p a).Nodup :=
  nodup_outermostBelow h _ _ a

theorem nodup_outermostWithin (h : t.Closed) (p : Path) (a : Place) :
    (t.outermostWithin p a).Nodup :=
  nodup_within h (fun _ => nodup_outermostBelow h _ _ _) a

/-! ## The search -/

theorem list_eq_ok_iff {entries : List (Name × Entry)} :
    t.list p = .ok entries ↔ ∃ a, t.find p true = .ok (a, .folder) ∧ entries = t.children a := by
  unfold list
  split
  · simp_all
  · rename_i a ha
    constructor
    · intro h
      cases h
      exact ⟨a, ha, rfl⟩
    · rintro ⟨a', ha', rfl⟩
      rw [ha] at ha'
      cases ha'
      rfl
  · rename_i found hno hfound
    constructor
    · intro h
      cases h
    · rintro ⟨a, ha, -⟩
      rw [ha] at hfound
      exact absurd (Except.ok.inj hfound).symm (hno a)

/-- A name of a directory behind a path to another one leads on into it. -/
theorem Closed.leads_append (h : t.Closed) (hp : t.find p true = .ok (a, .folder))
    (hget : t.get? (a ++ [n]) = some .folder) :
    Path.append p n ≠ [] ∧ Path.nul ∉ Path.append p n ∧
      ∃ k ≤ maxLinks, Leads t k (t.start (Path.append p n)) (Path.names (Path.append p n))
        (a ++ [n]) := by
  obtain ⟨hne, hnul, k, hk, hleads⟩ := leads_of_find hp
  have hn : Path.IsProper n := h.proper_of_get? hget n (by simp)
  refine ⟨Path.append_ne_nil hn.ne_nil, Path.nul_notMem_append hnul hn.nul_notMem, k, hk, ?_⟩
  rw [start, Path.isAbsolute_append_name hne, Path.names_append_name hn]
  exact hleads.append (.folder hn.ne_up hget (.done _))

theorem EndsKept.append_folder (hkept : t.EndsKept p) (h : t.Closed)
    (hp : t.find p true = .ok (a, .folder)) (hget : t.get? (a ++ [n]) = some .folder) :
    t.EndsKept (Path.append p n) :=
  hkept.append (leads_of_find hp).1 (h.proper_of_get? hget n (by simp))

theorem EndsKept.below (hkept : t.EndsKept p) (h : t.Closed) (hne : p ≠ [])
    (hget : t.get? (a ++ ns) = some e) : t.EndsKept (p.below ns) := by
  have hproper : ∀ n ∈ ns, Path.IsProper n := fun n hn =>
    h.proper_of_get? hget n (List.mem_append_right a hn)
  clear hget
  induction ns generalizing p with
  | nil => exact hkept
  | cons n ns ih =>
      obtain ⟨hn, hns⟩ := List.forall_mem_cons.1 hproper
      exact ih (hkept.append hne hn) (Path.append_ne_nil hn.ne_nil) hns

/-- A path to a directory leads on to the directories in it, unless it gets too long. -/
theorem Closed.find_append (h : t.Closed) (hkept : t.EndsKept p)
    (hp : t.find p true = .ok (a, .folder)) (hget : t.get? (a ++ [n]) = some .folder) :
    t.find (Path.append p n) true = .ok (a ++ [n], .folder) ∨
      t.find (Path.append p n) true = .error .nameTooLong := by
  obtain ⟨hne, hnul, k, hk, hleads⟩ := h.leads_append hp hget
  exact find_eq_folder_or (hkept.append_folder h hp hget) hne hnul hleads hk

theorem eq_map_of_mapM_eq_ok {α β ε : Type} {f : α → Except ε β} {g : α → β} {l : List α}
    {bs : List β} (h : l.mapM f = .ok bs) (hg : ∀ x ∈ l, ∀ y, f x = .ok y → y = g x) :
    bs = l.map g := by
  induction l generalizing bs with
  | nil =>
      cases h
      rfl
  | cons x l ih =>
      rw [List.mapM_cons] at h
      cases hx : f x with
      | error e =>
          rw [hx] at h
          cases h
      | ok y =>
          cases hrest : l.mapM f with
          | error e =>
              rw [hx, hrest] at h
              cases h
          | ok ys =>
              rw [hx, hrest] at h
              cases h
              rw [hg x List.mem_cons_self y hx,
                ih hrest fun x' hx' => hg x' (List.mem_cons_of_mem x hx'), List.map_cons]

theorem mapM_eq_ok_map {α β ε : Type} {f : α → Except ε β} {g : α → β} {l : List α}
    (h : ∀ x ∈ l, f x = .ok (g x)) : l.mapM f = .ok (l.map g) := by
  induction l with
  | nil => rfl
  | cons x l ih =>
      rw [List.mapM_cons, h x List.mem_cons_self,
        ih fun x' hx' => h x' (List.mem_cons_of_mem x hx')]
      rfl

/-- What is found in the directories in a directory, from what is found in each. -/
theorem eq_within {search : Path → Except SearchError (List (List Name))}
    {below : Name → List (List Name)} {found : List (List Name)} (hwf : t.Closed)
    (h : t.searchWithin search p = .ok found)
    (ha : ∀ entries, t.list p = .ok entries → t.find p true = .ok (a, .folder))
    (hbelow : ∀ n, t.get? (a ++ [n]) = some .folder → t.find p true = .ok (a, .folder) →
      ∀ found, search (Path.append p n) = .ok found → found = below n) :
    found = t.within below a := by
  unfold searchWithin at h
  cases hlist : t.list p with
  | error e =>
      rw [hlist] at h
      cases h
  | ok entries =>
      rw [hlist] at h
      dsimp only at h
      have hp := ha entries hlist
      obtain ⟨a', ha', rfl⟩ := list_eq_ok_iff.1 hlist
      obtain rfl : a = a' := congrArg Prod.fst (Except.ok.inj (hp.symm.trans ha'))
      cases hall : (subfolders (t.children a)).mapM fun n =>
          (search (Path.append p n)).map fun found => found.map (n :: ·) with
      | error e =>
          rw [hall] at h
          cases h
      | ok founds =>
          rw [hall] at h
          cases h
          have hfounds : founds =
              (subfolders (t.children a)).map fun n => (below n).map (n :: ·) := by
            refine eq_map_of_mapM_eq_ok hall fun n hn found hfound => ?_
            have hget := hwf.mem_subfolders_iff.1 hn
            cases hsearch : search (Path.append p n) with
            | error e =>
                rw [hsearch] at hfound
                cases hfound
            | ok names =>
                rw [hsearch] at hfound
                cases hfound
                rw [hbelow n hget hp names hsearch]
          rw [hfounds, within, List.flatMap_def]

/-- The directory that a path leads to, if it can be read, is the one at `a`. -/
def ReadAt (t : FileTree) (p : Path) (a : Place) : Prop :=
  ∀ entries, t.list p = .ok entries → t.find p true = .ok (a, .folder)

theorem ReadAt.append (hwf : t.Closed) (hkept : t.EndsKept p)
    (hp : t.find p true = .ok (a, .folder)) (hget : t.get? (a ++ [n]) = some .folder) :
    t.ReadAt (Path.append p n) (a ++ [n]) := by
  intro entries hlist
  rcases hwf.find_append hkept hp hget with hfind | hlong
  · exact hfind
  · obtain ⟨a', ha', -⟩ := list_eq_ok_iff.1 hlist
    rw [hlong] at ha'
    cases ha'

theorem readAt_of_find (hp : t.find p true = .ok (a, .folder)) : t.ReadAt p a := fun _ _ => hp

/-- A search that comes to its end has found the outermost images. -/
theorem eq_outermostBelow (hwf : t.Closed) (hkept : t.EndsKept p) {depth : Nat} (ha : t.ReadAt p a)
    {found : List (List Name)} (h : t.imagesBelow depth p = .ok found) :
    found = t.outermostBelow (fun ns => t.holdsImage (p.below ns)) depth a := by
  induction depth generalizing p a found with
  | zero =>
      unfold imagesBelow at h
      unfold outermostBelow
      by_cases hholds : t.holdsImage p = true
      · rw [if_pos hholds] at h
        cases h
        exact (if_pos hholds).symm
      · rw [if_neg hholds] at h
        cases h
        exact (if_neg hholds).symm
  | succ depth ih =>
      unfold imagesBelow at h
      unfold outermostBelow
      by_cases hholds : t.holdsImage p = true
      · rw [if_pos hholds] at h
        cases h
        exact (if_pos hholds).symm
      · rw [if_neg hholds] at h
        rw [eq_within hwf h ha fun n hget hp found hfound =>
          ih (hkept.append_folder hwf hp hget) (.append hwf hkept hp hget) hfound]
        exact (if_neg hholds).symm

/-- Every directory at and below the directory `d` can be read by its path from `p` on. -/
def Readable (t : FileTree) (p : Path) (d : Place) : Prop :=
  ∀ ns, t.get? (d ++ ns) = some .folder → ∃ entries, t.list (p.below ns) = .ok entries

/-- What is to be said of all directories below one is to be said of entries. -/
theorem forall_below_of_entries {P : List Name → Prop} (hroot : P [])
    (h : ∀ x ∈ t.entries, x.2 = .folder → a <+: x.1 → P (x.1.drop a.length)) {ns : List Name}
    (hns : t.get? (a ++ ns) = some .folder) : P ns := by
  by_cases hplace : a ++ ns = []
  · obtain ⟨-, rfl⟩ := List.append_eq_nil_iff.1 hplace
    exact hroot
  · have hmem := h _ (mem_entries_of_get? hplace hns) rfl (List.prefix_append a ns)
    rwa [List.drop_left] at hmem

theorem readable_of_entries (hp : t.isFolder p = true)
    (h : ∀ x ∈ t.entries, x.2 = .folder → a <+: x.1 →
      t.isFolder (p.below (x.1.drop a.length)) = true) : t.Readable p a := by
  intro ns hns
  obtain ⟨b, hb⟩ := exists_find_of_isFolder
    (forall_below_of_entries (P := fun ns => t.isFolder (p.below ns) = true) hp h hns)
  exact ⟨_, list_eq_ok_iff.2 ⟨b, hb, rfl⟩⟩

theorem Readable.append (h : t.Readable p a) (n : Name) :
    t.Readable (Path.append p n) (a ++ [n]) := by
  intro ns hns
  exact h (n :: ns) (by simpa using hns)

theorem searchWithin_eq {search : Path → Except SearchError (List (List Name))}
    {below : Name → List (List Name)} (hwf : t.Closed)
    (hp : t.find p true = .ok (a, .folder))
    (hbelow : ∀ n, t.get? (a ++ [n]) = some .folder → search (Path.append p n) = .ok (below n)) :
    t.searchWithin search p = .ok (t.within below a) := by
  have hlist : t.list p = .ok (t.children a) := list_eq_ok_iff.2 ⟨a, hp, rfl⟩
  unfold searchWithin
  rw [hlist]
  dsimp only
  have hall : ((subfolders (t.children a)).mapM fun n =>
      (search (Path.append p n)).map fun found => found.map (n :: ·)) =
      .ok ((subfolders (t.children a)).map fun n => (below n).map (n :: ·)) := by
    refine mapM_eq_ok_map fun n hn => ?_
    rw [hbelow n (hwf.mem_subfolders_iff.1 hn)]
    rfl
  rw [hall, within, List.flatMap_def]
  rfl

/-- A path to a directory that can be read leads to the directories in it. -/
theorem Readable.find_append (h : t.Readable p a) (hwf : t.Closed) (hkept : t.EndsKept p)
    (hp : t.find p true = .ok (a, .folder)) (hget : t.get? (a ++ [n]) = some .folder) :
    t.find (Path.append p n) true = .ok (a ++ [n], .folder) := by
  obtain ⟨entries, hlist⟩ := h [n] hget
  exact ReadAt.append hwf hkept hp hget entries hlist

theorem Readable.find_below (h : t.Readable p a) (hwf : t.Closed) (hkept : t.EndsKept p)
    (hp : t.find p true = .ok (a, .folder)) (hget : t.get? (a ++ ns) = some .folder) :
    t.find (p.below ns) true = .ok (a ++ ns, .folder) := by
  induction ns generalizing p a with
  | nil => simpa using hp
  | cons n ns ih =>
      rw [List.append_cons] at hget ⊢
      have hfirst : t.get? (a ++ [n]) = some .folder := by
        by_cases hns : ns = []
        · simpa [hns] using hget
        · exact hwf.folder_of_get?_append hns hget
      exact ih (h.append n) (hkept.append_folder hwf hp hfirst)
        (h.find_append hwf hkept hp hfirst) hget

/-- Without limits on paths everything can be read. -/
theorem readable_of_unlimited (hwf : t.Closed) (hkept : t.EndsKept p)
    (hlimits : t.limits = .unlimited) (hp : t.find p true = .ok (a, .folder)) : t.Readable p a := by
  intro ns hns
  induction ns generalizing p a with
  | nil => exact ⟨_, list_eq_ok_iff.2 ⟨a, hp, rfl⟩⟩
  | cons n ns ih =>
      rw [List.append_cons] at hns
      have hfirst : t.get? (a ++ [n]) = some .folder := by
        by_cases hnil : ns = []
        · simpa [hnil] using hns
        · exact hwf.folder_of_get?_append hnil hns
      obtain ⟨hne, hnul, k, hk, hleads⟩ := hwf.leads_append hp hfirst
      have hkept' := hkept.append_folder hwf hp hfirst
      exact ih hkept' (find_eq_folder hkept' hlimits hne hnul hleads hk) hns

/-- A path that leads to a directory that can be read does not depend on links at its end. -/
theorem Readable.find_true (h : t.Readable p a) (hwf : t.Closed) (hkept : t.EndsKept p)
    (hp : t.find p false = .ok (a, .folder)) : t.find p true = .ok (a, .folder) := by
  have ha := hwf.folder_of_find hkept hp
  obtain ⟨entries, hlist⟩ := h [] (by simpa using ha)
  rw [Path.below_nil] at hlist
  obtain ⟨b, hb, -⟩ := list_eq_ok_iff.1 hlist
  rcases find_false_of_find_true hb with hfolder | ⟨c, target, hlink⟩
  · rw [hp] at hfolder
    cases hfolder
    exact hb
  · rw [hp] at hlink
    cases hlink

/-- Where every directory can be read, a search comes to its end. -/
theorem imagesBelow_eq (hwf : t.Closed) (hkept : t.EndsKept p) {depth : Nat} (hread : t.Readable p a)
    (hp : t.find p true = .ok (a, .folder)) :
    t.imagesBelow depth p =
      .ok (t.outermostBelow (fun ns => t.holdsImage (p.below ns)) depth a) := by
  induction depth generalizing p a with
  | zero =>
      unfold imagesBelow outermostBelow
      by_cases hholds : t.holdsImage p = true
      · rw [if_pos hholds]
        exact congrArg Except.ok (if_pos hholds).symm
      · rw [if_neg hholds]
        exact congrArg Except.ok (if_neg hholds).symm
  | succ depth ih =>
      unfold imagesBelow outermostBelow
      by_cases hholds : t.holdsImage p = true
      · rw [if_pos hholds]
        exact congrArg Except.ok (if_pos hholds).symm
      · have hrest := searchWithin_eq hwf hp fun n hget =>
          ih (hkept.append_folder hwf hp hget) (hread.append n) (hread.find_append hwf hkept hp hget)
        rw [if_neg hholds]
        exact hrest.trans (congrArg Except.ok (if_neg hholds).symm)

/-! ## The manifest of a directory -/

/-- Behind a directory the manifest is looked for as from there, with the links that are left,
unless its path is too long. -/
theorem locate_manifest (hkept : t.EndsKept p) (hp : t.find p true = .ok (a, .folder)) :
    (t.exceedsPath (Path.append p manifestName) = true ∧
        t.locate (Path.append p manifestName) true = .error .nameTooLong) ∨
      ∃ left, t.locate (Path.append p manifestName) true =
        t.walk true false left a [manifestName] := by
  obtain ⟨hcheck, hwalk⟩ := find_eq_ok_iff.1 hp
  obtain ⟨hne, hnul⟩ := of_checkText hcheck
  have hproper := isProper_manifestName
  have hnul' : Utf8.Piece.char '\x00' ∉ Path.append p manifestName :=
    Path.nul_notMem_append hnul hproper.nul_notMem
  have hne' : (Path.append p manifestName).isEmpty = false := by
    simpa using Path.append_ne_nil hproper.ne_nil
  rw [locate, checkText, if_neg hnul', hne', if_neg Bool.false_ne_true]
  by_cases hlong : t.exceedsPath (Path.append p manifestName) = true
  · rw [if_pos hlong]
    exact .inl ⟨hlong, rfl⟩
  · have hsegments : Path.segments (Path.append p manifestName) =
        Path.segments p ++ [manifestName] := by
      rw [Path.segments_append, Path.segments_of_slash_notMem hproper.ne_nil hproper.slash_notMem]
    have hstart : t.start (Path.append p manifestName) = t.start p := by
      rw [start, start, Path.isAbsolute_append_name hne]
    have hkept' := hkept.append hne hproper
    obtain ⟨left, hon⟩ := walk_append hwalk false (List.cons_ne_nil manifestName [])
    refine .inr ⟨left, ?_⟩
    rw [if_neg hlong, hkept'.asksRemoved, if_neg Bool.false_ne_true,
      Path.endsInSlash_append_name hproper, hsegments, hstart]
    exact hon

theorem locate_manifest_of_unlimited (hkept : t.EndsKept p) (hlimits : t.limits = .unlimited)
    (hp : t.find p true = .ok (a, .folder)) :
    ∃ left, t.locate (Path.append p manifestName) true =
      t.walk true false left a [manifestName] := by
  rcases locate_manifest hkept hp with ⟨hlong, -⟩ | hon
  · rw [exceedsPath, hlimits] at hlong
    cases hlong
  · exact hon

/-- A directory with a regular manifest is an image. -/
theorem holdsImage_of_file (hkept : t.EndsKept p) (hlimits : t.limits = .unlimited)
    (hp : t.find p true = .ok (a, .folder)) {content : List UInt8}
    (h : t.get? (a ++ [manifestName]) = some (.file content)) : t.holdsImage p = true := by
  obtain ⟨left, hon⟩ := locate_manifest_of_unlimited hkept hlimits hp
  rw [walk_file isProper_manifestName.ne_here isProper_manifestName.ne_up
    (exceedsName_eq_false hlimits _) h] at hon
  rw [holdsImage, isFile, stat, find, hon]
  rfl

/-- A directory without a manifest, or with a directory of this name, is no image. -/
theorem holdsImage_eq_false (hkept : t.EndsKept p) (hlimits : t.limits = .unlimited)
    (hp : t.find p true = .ok (a, .folder))
    (h : ∀ e, t.get? (a ++ [manifestName]) = some e → e = .folder) : t.holdsImage p = false := by
  obtain ⟨left, hon⟩ := locate_manifest_of_unlimited hkept hlimits hp
  cases hget : t.get? (a ++ [manifestName]) with
  | none =>
      rw [walk_none isProper_manifestName.ne_here isProper_manifestName.ne_up
        (exceedsName_eq_false hlimits _) hget] at hon
      rw [holdsImage, isFile, stat, find, hon]
      rfl
  | some e =>
      rw [h e hget] at hget
      rw [walk_folder isProper_manifestName.ne_here isProper_manifestName.ne_up
        (exceedsName_eq_false hlimits _) hget, walk_nil] at hon
      rw [holdsImage, isFile, stat, find, hon]
      rfl

/-! ## The search from a path -/

variable {c : Place} {target : Path} {paths : List Path}

theorem findImages_of_folder (hwf : t.Closed) (hkept : t.EndsKept p) (hread : t.Readable p b)
    (hp : t.find p false = .ok (b, .folder)) :
    t.findImages p = .ok ((t.outermost p b).map p.below) := by
  rw [findImages, hp]
  dsimp only
  rw [imagesBelow_eq hwf hkept hread (hread.find_true hwf hkept hp)]
  rfl

theorem findImages_of_link (hwf : t.Closed) (hkept : t.EndsKept p) (hread : t.Readable p b)
    (hp : t.find p true = .ok (b, .folder)) (hlink : t.find p false = .ok (c, .link target)) :
    t.findImages p = .ok ((t.outermostWithin p b).map p.below) := by
  rw [findImages, hlink]
  simp only [hp]
  rw [searchWithin_eq hwf hp fun n hget =>
    imagesBelow_eq hwf (hkept.append_folder hwf hp hget) (hread.append n)
      (hread.find_append hwf hkept hp hget)]
  rfl

/-- What is found below a path to a directory that is no image: all outermost images, each once. It
makes no difference if the path ends in a link. -/
theorem findImages_eq (hwf : t.Closed) (hkept : t.EndsKept p) (hread : t.Readable p b)
    (hp : t.find p true = .ok (b, .folder)) (hno : t.holdsImage p = false) :
    ∃ found : List (List Name), t.findImages p = .ok (found.map p.below) ∧ found.Nodup ∧
      ∀ ns, ns ∈ found ↔ t.Outermost (fun ns => t.holdsImage (p.below ns)) b ns := by
  rcases find_false_of_find_true hp with hfolder | ⟨c, target, hlink⟩
  · exact ⟨_, findImages_of_folder hwf hkept hread hfolder, nodup_outermost hwf p b,
      fun ns => mem_outermost_iff hwf⟩
  · refine ⟨_, findImages_of_link hwf hkept hread hp hlink, nodup_outermostWithin hwf p b,
      fun ns => ?_⟩
    rw [mem_outermostWithin_iff hwf, outermost_iff_within hno]

end FileTree

end ImageSync
