import ImageSync.Destination
import ImageSync.Proofs.Files.Absolute
import ImageSync.Proofs.Files.Made

/-!
# Making the directory of an image

The place of an image is refused if something is there already, else its directory is made with
those above it. So the image gets a directory of its own, unless its path has a step `..` behind a
directory that is missing: the path does not exist then, and may lead to a directory that does once
the missing one is made.

## Main definitions

* `Destination.Prepared`: what comes of making a directory for an image.
* `Destination.MadeFor t t' location path place`: a new directory for a location.

## Main statements

* `Destination.exists_madeFor`: an image gets a new directory.
* `Destination.prepare_wellFormed`: whatever comes of it, the tree stays well formed.
-/

namespace ImageSync.Destination

open Text

/-- What comes of making a directory for an image, with the tree behind it. -/
inductive Prepared (t : FileTree) (location : String) : Except SyncError Image → FileTree → Prop
  | taken {b : Place} {e : Entry} (h : t.find (Path.ofString location) true = .ok (b, e)) :
      Prepared t location (.error (.destinationExists location)) t
  | unusable {e : SystemError} (h : t.stat (Path.ofString location) = .error e) :
      Prepared t location (.error (.destinationUnusable location e)) t
  | notMade {e : SystemError} {t' : FileTree}
      (h : t.makeFolders (Path.ofString location) = (.error e, t')) :
      Prepared t location (.error (.destinationNotCreated location e)) t'
  | unnamed {e : SystemError} {t' : FileTree}
      (h : t.makeFolders (Path.ofString location) = (.ok (), t')) :
      Prepared t location (.error (.destinationUnusable location e)) t'
  | made {path : Path} {t' : FileTree}
      (h : t.makeFolders (Path.ofString location) = (.ok (), t'))
      (hpath : Path.absolute? t'.homePath (Path.ofString location) = .ok path) :
      Prepared t location (.ok (.inFolder path)) t'

theorem prepared (t : FileTree) (location : String) :
    Prepared t location (prepare t location .folder).1 (prepare t location .folder).2 := by
  simp only [prepare, prepareFolder]
  cases hstat : t.stat (Path.ofString location) with
  | ok e =>
      rw [FileTree.stat] at hstat
      cases hfind : t.find (Path.ofString location) true with
      | error e' => simp [hfind, Except.map] at hstat
      | ok found => exact .taken hfind
  | error e =>
      dsimp only
      by_cases hmissing : e ≠ .notFound
      · rw [if_pos hmissing]
        exact .unusable hstat
      · rw [if_neg hmissing]
        cases hfolders : t.makeFolders (Path.ofString location) with
        | mk result t' => cases result with
          | error e => exact .notMade hfolders
          | ok u =>
              dsimp only
              cases hpath : t'.absolute? (Path.ofString location) with
              | error e =>
                  rw [Image.ofFolder, hpath]
                  exact .unnamed hfolders
              | ok path =>
                  rw [Image.ofFolder, hpath]
                  exact .made hfolders (FileTree.of_absolute?_eq_ok hpath)

/-- The directory at `place` is a new one that was made for a location, and `path` is the location
made absolute. The path led nowhere before. From now on it leads to this directory, as long as
nothing is taken from the tree, unless it is too long or has a name that is. -/
structure MadeFor (t t' : FileTree) (location : String) (path : Path) (place : Place) : Prop where
  path_eq : Path.absolute? t.homePath (Path.ofString location) = .ok path
  isNew : t.IsNewFolder t' (Path.ofString location) place
  lost : ∀ b e, t.find path true ≠ .ok (b, e)
  leads : ∀ t'', t'.Extends t'' →
    t''.find path true = .ok (place, .folder) ∨ t''.find path true = .error .nameTooLong

variable {t t' : FileTree} {location : String} {image : Image}

/-- The path of an image leads to the directory that its location leads to. -/
theorem find_of_isNewFolder {path : Path} {place : Place} (hwf : t.WellFormed)
    (hpath : Path.absolute? t.homePath (Path.ofString location) = .ok path)
    (h : t.IsNewFolder t' (Path.ofString location) place) {t'' : FileTree} (hext : t'.Extends t'') :
    t''.find path true = .ok (place, .folder) ∨ t''.find path true = .error .nameTooLong := by
  obtain ⟨hne, hnul, k, hk, hleads⟩ := FileTree.leads_of_find h.found
  obtain ⟨q, hq, habsolute, hnulq, -, hnames⟩ := hwf.absolute?_eq_ok hne
  obtain rfl : q = path := Except.ok.inj (hq.symm.trans hpath)
  have horigin : t'.origin (Path.ofString location) = t.origin (Path.ofString location) := by
    rw [FileTree.origin, FileTree.origin, h.home]
  have hway := ((h.wellFormed hwf).leads_absolute hleads).mono hext
  rw [horigin, ← hnames] at hway
  have hqne : q ≠ [] := by
    rintro rfl
    cases habsolute
  refine FileTree.find_eq_folder_or (.inl habsolute) hqne (hnulq hnul) ?_ hk
  rwa [FileTree.start, if_pos habsolute]

/-- An image for which a directory is made gets a new and empty one, if each `..` of its path comes
behind a way to a directory. -/
theorem exists_madeFor (hwf : t.WellFormed) (hclimbs : t.Climbs (Path.ofString location))
    (h : prepare t location .folder = (.ok image, t')) :
    ∃ path place, image = .inFolder path ∧ MadeFor t t' location path place := by
  have hmissing : t.stat (Path.ofString location) = .error .notFound := by
    simp only [prepare, prepareFolder] at h
    split at h
    · cases h
    · split at h
      · cases h
      · rename_i e hstat hnot
        rwa [Decidable.not_not.1 hnot] at hstat
  have hprepared := prepared t location
  rw [h] at hprepared
  cases hprepared with
  | made hmade hpath =>
      rename_i path
      have hne : Path.ofString location ≠ [] := by
        intro hnil
        rw [hnil] at hpath
        cases hpath
      obtain ⟨place, hnew⟩ := FileTree.exists_isNewFolder hwf hne hmissing hclimbs hmade
      have hhome : t'.homePath = t.homePath := by
        rw [FileTree.homePath, FileTree.homePath, hnew.home]
      rw [hhome] at hpath
      refine ⟨path, place, rfl, hpath, hnew, fun b e hfind => ?_, fun t'' hext =>
        find_of_isNewFolder hwf hpath hnew hext⟩
      -- what was found at the path would be there still
      have hfound := FileTree.find_mono hnew.isExtended hnew.home hnew.removed hnew.limits hfind
      rcases find_of_isNewFolder hwf hpath hnew fun _ _ h => h with hthere | hlong
      · rw [hfound] at hthere
        cases hthere
        obtain ⟨-, -, k, -, hleads⟩ := FileTree.leads_of_find hfind
        have hget := hwf.folder_of_leads hleads
        rw [hnew.free] at hget
        cases hget
      · rw [hfound] at hlong
        cases hlong

/-- Whatever comes of making a place ready, the tree stays well formed. -/
theorem prepare_wellFormed (hwf : t.WellFormed) (location : String)
    (transport : DestinationTransport) : (prepare t location transport).2.WellFormed := by
  cases transport with
  | registry => rwa [prepare_registry_tree]
  | folder =>
      have hmade : (t.makeFolders (Path.ofString location)).2.WellFormed :=
        FileTree.makeFoldersFrom_induction (P := FileTree.WellFormed) hwf
          fun t' p place hwf' _ hfresh => 
            (FileTree.isNewFolder_add hwf'.toClosed hfresh).wellFormed hwf'
      have hprepared := prepared t location
      generalize (prepare t location .folder).1 = result at hprepared
      generalize (prepare t location .folder).2 = t' at hprepared ⊢
      cases hprepared with
      | taken => exact hwf
      | unusable => exact hwf
      | notMade hfolders => rwa [hfolders] at hmade
      | unnamed hfolders => rwa [hfolders] at hmade
      | made hfolders => rwa [hfolders] at hmade

end ImageSync.Destination
