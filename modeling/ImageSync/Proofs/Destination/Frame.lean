import ImageSync.Proofs.Destination.Prepared

/-!
# What making a directory leaves behind

Making the directory of an image changes nothing that is in the tree. It adds directories and
nothing else: the one that the path of the image leads to in the end, and some that the paths above
it lead to. If it fails, only the latter can have been made, unless the working directory was
removed: then the directory is made and has no absolute path.

## Main definitions

* `FileTree.AddsFolders t t' paths added`: the second tree has these directories more.
* `Destination.LeftBehind t location result t'`: what each outcome says about the tree.

## Main statements

* `FileTree.exists_addsFolders`: what the creation of several directories adds.
* `Destination.prepare_frame`: what making a directory for an image leaves behind.
-/

namespace ImageSync.FileTree

variable {t t' t₀ : FileTree} {p : Path} {place : Place} {paths : List Path} {added : List Place}
  {e : SystemError}

/-- The tree `t'` is `t` with some directories more. Each lies where nothing lay, is what one of the
paths leads to, and holds nothing but others of them. -/
structure AddsFolders (t t' : FileTree) (paths : List Path) (added : List Place) : Prop where
  eq : t' = { t with entries := t.entries ++ added.map fun q => (q, .folder) }
  free : ∀ q ∈ added, t.get? q = none
  found : ∀ q ∈ added, ∃ p ∈ paths, t'.find p true = .ok (q, .folder)
  inside : ∀ q ∈ added, ∀ ns, t'.get? (q ++ ns) ≠ none → q ++ ns ∈ added

namespace AddsFolders

theorem start (t : FileTree) (paths : List Path) : AddsFolders t t paths [] where
  eq := by rw [List.map_nil, List.append_nil]
  free := by simp
  found := by simp
  inside := by simp

theorem home (h : AddsFolders t t' paths added) : t'.home = t.home := by rw [h.eq]

theorem removed (h : AddsFolders t t' paths added) : t'.removed = t.removed := by rw [h.eq]

theorem limits (h : AddsFolders t t' paths added) : t'.limits = t.limits := by rw [h.eq]

/-- Nothing is removed, replaced or changed. -/
theorem isExtended (h : AddsFolders t t' paths added) : t.Extends t' := by
  intro q e hq
  rw [h.eq]
  by_cases hne : q = []
  · rw [hne] at hq ⊢
    exact hq
  · rw [get?_of_ne_nil hne] at hq ⊢
    rw [List.lookup_append, hq]
    rfl

/-- A directory that is created for one of the paths is one more. -/
theorem add (h : AddsFolders t₀ t paths added) (ht : t.Closed) (hp : p ∈ paths)
    (hfresh : t.freshPlace p = .ok place) :
    AddsFolders t₀ (t.add place .folder) paths (added ++ [place]) := by
  have hnew := isNewFolder_add ht hfresh
  constructor
  case eq => simp [FileTree.add, h.eq]
  case free =>
    refine List.forall_mem_append.2 ⟨h.free, List.forall_mem_singleton.2 ?_⟩
    exact (hnew.of_extends h.isExtended h.home h.removed h.limits).free
  case found =>
    refine List.forall_mem_append.2 ⟨?_, List.forall_mem_singleton.2 ⟨p, hp, hnew.found⟩⟩
    intro q hq
    obtain ⟨p', hp', hfound⟩ := h.found q hq
    exact ⟨p', hp', find_mono hnew.isExtended hnew.home hnew.removed hnew.limits hfound⟩
  case inside =>
    intro q hq ns hget
    obtain ⟨e, hget⟩ := Option.ne_none_iff_exists'.1 hget
    rcases List.mem_append.1 hq with hq | hq
    · rcases of_get?_add hget with hold | ⟨-, heq⟩
      · exact List.mem_append_left _ (h.inside q hq ns (by simp [hold]))
      · exact List.mem_append_right _ (List.mem_singleton.2 heq)
    · -- the new directory is empty
      obtain rfl := List.mem_singleton.1 hq
      by_cases hns : ns = []
      · simp [hns]
      · rw [hnew.empty ns hns] at hget
        cases hget

end AddsFolders

/-- The creation of several directories adds directories that their paths lead to, also where it
fails. -/
theorem exists_addsFolders (ht : t.Closed) (paths : List Path) :
    (t.makeFoldersFrom paths).2.Closed ∧
      ∃ added, AddsFolders t (t.makeFoldersFrom paths).2 paths added := by
  refine makeFoldersFrom_induction
    (P := fun t' => t'.Closed ∧ ∃ added, AddsFolders t t' paths added)
    ⟨ht, [], .start t paths⟩ ?_
  rintro t' p place ⟨ht', added, h⟩ hp hfresh
  exact ⟨(isNewFolder_add ht' hfresh).closed, _, h.add ht' hp hfresh⟩

/-- Where a directory cannot be made, at most those above it were. -/
theorem makeFolders_eq_error (h : t.makeFolders p = (.error e, t')) :
    t' = t ∨ t' = (t.makeFoldersFrom (Path.parents p)).2 := by
  rw [makeFolders, makeFoldersFrom] at h
  split at h
  · cases h
  · split at h
    · cases h
    · split at h
      · exact .inl (Prod.mk.inj h).2.symm
      · split at h
        · rename_i habove
          cases h
          exact .inr (by rw [habove])
        · rename_i t₁ habove
          rw [makeFolderUnlessThere] at h
          split at h
          · cases h
          · exact .inr (by rw [habove, (Prod.mk.inj h).2])

/-- The path of a directory that was made leads to a directory. -/
theorem exists_find_of_makeFolders (ht : t.Closed) (hne : p ≠ [])
    (h : t.makeFolders p = (.ok (), t')) : ∃ place, t'.find p true = .ok (place, .folder) := by
  obtain ⟨t₁, ht₁, hlast⟩ := makeFolders_eq_ok hne h
  have hclosed : t₁.Closed := by
    rcases ht₁ with rfl | rfl
    · exact ht
    · exact (exists_addsFolders ht (Path.parents p)).1
  rcases hlast with ⟨hfolder, rfl⟩ | ⟨place, hfresh, rfl⟩
  · exact exists_find_of_isFolder hfolder
  · exact ⟨place, (isNewFolder_add hclosed hfresh).found⟩

end ImageSync.FileTree

namespace ImageSync.Destination

open FileTree (AddsFolders)

variable {t t' : FileTree} {location : String}

/-- What is left behind of a tree when a directory was to be made for an image. -/
inductive LeftBehind (t : FileTree) (location : String) : Except SyncError Image → FileTree → Prop
  /-- The location leads to something, be it a file or a directory. -/
  | taken {place : Place} {e : Entry} (h : t.find (Path.ofString location) true = .ok (place, e)) :
      LeftBehind t location (.error (.destinationExists location)) t
  | unusable {e : SystemError}
      (h : ∀ place e, t.find (Path.ofString location) true ≠ .ok (place, e)) :
      LeftBehind t location (.error (.destinationUnusable location e)) t
  /-- The directory was made, but its path cannot be made absolute. -/
  | unnamed {place : Place} {t' : FileTree} {added : List Place}
      (h : t.find (Path.ofString location) true = .error .notFound)
      (hremoved : ¬t.StartsKept (Path.ofString location))
      (hadded : AddsFolders t t'
        (Path.ofString location :: Path.parents (Path.ofString location)) added)
      (hfound : t'.find (Path.ofString location) true = .ok (place, .folder)) :
      LeftBehind t location (.error (.destinationUnusable location .notFound)) t'
  /-- Directories above the location may have been made before the failure. -/
  | notMade {e : SystemError} {t' : FileTree} {added : List Place}
      (h : t.find (Path.ofString location) true = .error .notFound)
      (hadded : AddsFolders t t' (Path.parents (Path.ofString location)) added) :
      LeftBehind t location (.error (.destinationNotCreated location e)) t'
  | made {image : Image} {place : Place} {t' : FileTree} {added : List Place}
      (h : t.find (Path.ofString location) true = .error .notFound)
      (hadded : AddsFolders t t'
        (Path.ofString location :: Path.parents (Path.ofString location)) added)
      (hfound : t'.find (Path.ofString location) true = .ok (place, .folder)) :
      LeftBehind t location (.ok image) t'

theorem LeftBehind.isExtended {result : Except SyncError Image}
    (h : LeftBehind t location result t') : t.Extends t' := by
  cases h with
  | taken => exact fun _ _ h => h
  | unusable => exact fun _ _ h => h
  | unnamed _ _ hadded => exact hadded.isExtended
  | notMade _ hadded => exact hadded.isExtended
  | made _ hadded => exact hadded.isExtended

theorem prepare_of_found {place : Place} {e : Entry}
    (h : t.find (Path.ofString location) true = .ok (place, e)) :
    prepare t location .folder = (.error (.destinationExists location), t) := by
  simp only [prepare, prepareFolder, FileTree.stat, h]
  rfl

theorem prepare_of_error {e : SystemError} (h : t.find (Path.ofString location) true = .error e)
    (he : e ≠ .notFound) :
    prepare t location .folder = (.error (.destinationUnusable location e), t) := by
  simp only [prepare, prepareFolder, FileTree.stat, h, Except.map, if_pos he]

/-- A location that does not exist. -/
theorem leftBehind_of_notFound (ht : t.Closed)
    (h : t.find (Path.ofString location) true = .error .notFound) :
    LeftBehind t location (prepare t location .folder).1 (prepare t location .folder).2 := by
  have hstat : t.stat (Path.ofString location) = .error .notFound := by
    rw [FileTree.stat, h]
    rfl
  have hnot : ∀ place e, t.find (Path.ofString location) true ≠ .ok (place, e) := by
    intro place e hfind
    rw [h] at hfind
    cases hfind
  obtain ⟨-, added, hadded⟩ :=
    FileTree.exists_addsFolders ht
      (Path.ofString location :: Path.parents (Path.ofString location))
  simp only [prepare, prepareFolder, hstat, ne_eq, not_true_eq_false, if_false]
  cases hmade : t.makeFolders (Path.ofString location) with
  | mk result t' =>
      have ht' : (t.makeFoldersFrom
          (Path.ofString location :: Path.parents (Path.ofString location))).2 = t' :=
        congrArg Prod.snd hmade
      rw [ht'] at hadded
      cases result with
      | error e =>
          rcases FileTree.makeFolders_eq_error hmade with rfl | rfl
          · exact .notMade h (.start _ _)
          · obtain ⟨-, above, habove⟩ :=
              FileTree.exists_addsFolders ht (Path.parents (Path.ofString location))
            exact .notMade h habove
      | ok u =>
          by_cases hne : Path.ofString location = []
          · -- the empty path counts as made, but names no directory
            have htree : t' = t := by
              rw [hne] at hmade
              exact (Prod.mk.inj hmade).2.symm
            rw [htree, hne]
            exact .unusable hnot
          · obtain ⟨place, hfound⟩ := FileTree.exists_find_of_makeFolders ht hne hmade
            rcases FileTree.absolute?_cases t' hne with ⟨q, hq, -⟩ | ⟨hq, hnot⟩
            · simp only [Image.ofFolder, hq]
              exact .made h hadded hfound
            · rw [FileTree.StartsKept, hadded.removed] at hnot
              simp only [Image.ofFolder, hq]
              exact .unnamed h hnot hadded hfound

/-- Making a directory for an image changes nothing that is there. A location that leads to
something is refused, and if it is refused or unusable the tree stays as it is. Otherwise there are
at most some directories more: those that the paths above the location lead to and, if it does not
fail, the one that the location leads to. All of them are there as well if a relative location turns
out to be unusable because the working directory was removed. -/
theorem prepare_frame (ht : t.Closed) (location : String) :
    LeftBehind t location (prepare t location .folder).1 (prepare t location .folder).2 ∧
      t.Extends (prepare t location .folder).2 ∧
      ∀ place e, t.find (Path.ofString location) true = .ok (place, e) →
        prepare t location .folder = (.error (.destinationExists location), t) := by
  have hleft : LeftBehind t location (prepare t location .folder).1
      (prepare t location .folder).2 := by
    cases hfind : t.find (Path.ofString location) true with
    | ok found =>
        rw [prepare_of_found hfind]
        exact .taken hfind
    | error e =>
        by_cases he : e = .notFound
        · exact leftBehind_of_notFound ht (he ▸ hfind)
        · rw [prepare_of_error hfind he]
          refine .unusable fun place e hplace => ?_
          rw [hfind] at hplace
          cases hplace
  exact ⟨hleft, hleft.isExtended, fun place e h => prepare_of_found h⟩

namespace Blocked

def app : Name := Path.ofString "app"

/-- A file where a directory is to be made. -/
def tree : FileTree := { entries := [([app], .file [])], home := [] }

theorem closed_tree : tree.Closed := by
  constructor
  case nodup => decide
  case proper =>
    have happ : Path.IsProper app := by constructor <;> decide
    simp [tree, happ]
  case inFolder => decide
  case home => rfl

end Blocked

open Blocked in
/-- A path that leads, through two directories that are made on the way, below a file. The two
directories stay, and nothing else is changed. -/
theorem prepare_frame_blocked :
    let new := Path.ofString "new"
    let t' : FileTree :=
      { entries := [([app], .file []), ([new], .folder), ([new, app], .folder)], home := [] }
    tree.Closed ∧
      prepare tree "new/app/../../app/v1" .folder =
        (.error (.destinationNotCreated "new/app/../../app/v1" .alreadyExists), t') ∧
      LeftBehind tree "new/app/../../app/v1"
        (.error (.destinationNotCreated "new/app/../../app/v1" .alreadyExists)) t' := by
  intro new t'
  have hprepare : prepare tree "new/app/../../app/v1" .folder =
      (.error (.destinationNotCreated "new/app/../../app/v1" .alreadyExists), t') := by
    rfl
  have hframe := (prepare_frame closed_tree "new/app/../../app/v1").1
  rw [hprepare] at hframe
  exact ⟨closed_tree, hprepare, hframe⟩

namespace Removed

def parent : Name := Path.ofString "work"

def gone : Name := Path.ofString "gone"

/-- The working directory was removed from a directory. -/
def tree : FileTree where
  entries := [([parent], .folder)]
  home := [parent, gone]
  removed := 1

theorem closed_tree : tree.Closed := by
  constructor
  case nodup => decide
  case proper =>
    have hparent : Path.IsProper parent := by constructor <;> decide
    simp [tree, hparent]
  case inFolder => decide
  case home => rfl

end Removed

open Removed in
/-- A location above the removed working directory. Its directory is made and stays, but the location
is unusable. -/
theorem prepare_removed :
    let app := Path.ofString "app"
    tree.Closed ∧
      prepare tree "../app" .folder =
        (.error (.destinationUnusable "../app" .notFound), tree.add [parent, app] .folder) ∧
      tree.get? [parent, app] = none :=
  ⟨closed_tree, rfl, rfl⟩

end ImageSync.Destination
