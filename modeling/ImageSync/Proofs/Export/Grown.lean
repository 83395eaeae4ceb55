import ImageSync.Proofs.Destination.Prepared
import ImageSync.Proofs.Export.Found

/-!
# A file tree during an export that may fail

Directories for images are made below a place at which something is missing. Whatever becomes of them,
whether one of them cannot be made or its copy fails, the tree holds nothing there but parts of these
directories and what was copied into them. So the place of another image is never taken.

## Main definitions

* `FileTree.Grown t₀ a ms done t`: the tree `t₀` with parts of the directories `done`.
* `Services.CopiesInside`: services whose copies stay inside the directory that they are given.

## Main statements

* `FileTree.Grown.makeFolders`: one more directory, as far as it can be made.
* `FileTree.Grown.copied`: a copy into one of the directories.
* `Destination.prepare_grown`: the place of another image is not taken.
* `Destination.prepare_blocked`: where something stands in the way no directory is made at all.
-/

namespace ImageSync

open Text

variable {σ : Type}

/-- Services whose copies change nothing but what lies in the directory that they are given, at any
depth. Without such a directory they change nothing. -/
def Services.CopiesInside (s : Services σ) : Prop :=
  ∀ (job : CopyJob) (tree : FileTree) (state : σ) (path : Path),
    job.destination = .inFolder path → tree.WellFormed →
    (s.copy job tree state).2.1.WellFormed ∧
      (s.copy job tree state).2.1.home = tree.home ∧
      ∀ q, (∀ a, tree.find path true = .ok (a, .folder) → a <+: q → q = a) →
        (s.copy job tree state).2.1.get? q = tree.get? q

namespace FileTree

/-- The tree `t` is `t₀` with parts of directories at `done`, lists of names from `a` on that begin
with `ms`, and with anything inside these directories. -/
structure Grown (t₀ : FileTree) (a : Place) (ms : List Name) (done : List (List Name))
    (t : FileTree) : Prop where
  wellFormed : t.WellFormed
  home : t.home = t₀.home
  isExtended : t₀.Extends t
  below : ∀ q e, q ≠ [] → q <+: ms ∨ ms <+: q → t.get? (a ++ q) = some e →
    (e = .folder ∧ ∃ f ∈ done, q <+: f) ∨ ∃ f ∈ done, f <+: q ∧ f ≠ q

variable {t₀ t t' : FileTree} {p path : Path} {a b c place : Place} {k k' : Nat} {n : Name}
  {ms ns xs ys f q : List Name} {done : List (List Name)}

theorem eq_or_apart (hapart : ∀ g ∈ done, Apart f g) : ∀ g ∈ done ++ [f], g = f ∨ Apart f g := by
  intro g hg
  rcases List.mem_append.1 hg with hg | hg
  · exact .inr (hapart g hg)
  · exact .inl (List.mem_singleton.1 hg)

namespace Grown

/-- Before the first directory. -/
theorem start (hwf : t.WellFormed) (hfree : t.get? (a ++ [n]) = none) :
    Grown t a (n :: ys) [] t where
  wellFormed := hwf
  home := rfl
  isExtended := fun _ _ h => h
  below := fun q e hq hcomparable hget => by
    obtain ⟨m, rest, rfl⟩ := List.exists_cons_of_ne_nil hq
    have hm : m = n := by
      rcases hcomparable with hpre | hpre
      · exact (List.cons_prefix_cons.1 hpre).1
      · exact (List.cons_prefix_cons.1 hpre).1.symm
    have hnone := hwf.get?_append_eq_none hfree rest
    rw [List.append_assoc, List.singleton_append, ← hm, hget] at hnone
    cases hnone

theorem insert (h : Grown t₀ a ms done t) (f : List Name) : Grown t₀ a ms (done ++ [f]) t where
  wellFormed := h.wellFormed
  home := h.home
  isExtended := h.isExtended
  below := fun q e hq hcomparable hget => by
    rcases h.below q e hq hcomparable hget with ⟨he, g, hg, hqg⟩ | ⟨g, hg, hgq⟩
    · exact .inl ⟨he, g, by simp [hg], hqg⟩
    · exact .inr ⟨g, by simp [hg], hgq⟩

theorem start_eq (h : Grown t₀ a ms done t) (p : Path) : t.start p = t₀.start p := by
  rw [FileTree.start, FileTree.start, h.home]

/-- The place of a directory apart from the others is free. -/
theorem get?_eq_none (h : Grown t₀ a ms done t) (hms : ms <+: f) (hne : f ≠ [])
    (hapart : ∀ g ∈ done, Apart f g) : t.get? (a ++ f) = none := by
  cases hget : t.get? (a ++ f) with
  | none => rfl
  | some e =>
      rcases h.below f e hne (.inr hms) hget with ⟨-, g, hg, hfg⟩ | ⟨g, hg, hgf, -⟩
      · exact absurd hfg (hapart g hg).1
      · exact absurd hgf (hapart g hg).2

section Directory

variable (h : Grown t₀ a ms done t) (hms : ms <+: f) (hapart : ∀ g ∈ done, g = f ∨ Apart f g)
include h hms hapart

/-- On the way to a directory that is apart from the others there are only directories. -/
theorem eq_folder : ∀ q, q ≠ [] → q <+: f → ∀ e, t.get? (a ++ q) = some e → e = .folder := by
  intro q hq hpre e hget
  rcases h.below q e hq (List.prefix_or_prefix_of_prefix hpre hms) hget with
    ⟨he, -⟩ | ⟨g, hg, hgq, hne⟩
  · exact he
  · rcases hapart g hg with rfl | hapart
    · exact absurd (hgq.eq_of_length_le hpre.length_le) hne
    · exact absurd (hgq.trans hpre) hapart.2

variable (hup : Path.upName ∉ f) (hleads : Leads t₀ k b xs a)
include hup hleads

/-- Where the names of a directory lead. -/
theorem place_eq (hq : q <+: f) (hway : Leads t k' b (xs ++ q) c) : c = a ++ q := by
  obtain ⟨k'', -, hrest⟩ := (hleads.mono h.isExtended).of_leads_append hway
  exact hrest.eq_append (fun hmem => hup (hq.subset hmem)) fun q' hq' hpre =>
    h.eq_folder hms hapart q' hq' (hpre.trans hq)

/-- A directory that is created for the path of one of the directories or for a path above it is a
part of that directory. -/
theorem add (hf : f ∈ done) (hp : Path.names p <+: xs ++ f) (hstart : t.start p = b)
    (hfresh : t.freshPlace p = .ok place) : Grown t₀ a ms done (t.add place .folder) := by
  have hway := hleads.mono h.isExtended
  rw [← hstart] at hway
  obtain ⟨q, n, hq, rfl, hn, hfolder, hget⟩ := freshPlace_along h.wellFormed hway hup
    (h.eq_folder hms hapart) hp hfresh
  constructor
  case wellFormed => exact h.wellFormed.add hn hfolder hget .folder
  case home => exact h.home
  case isExtended => exact h.isExtended.trans (extends_add t _ _)
  case below =>
    intro q' e hq' hcomparable hget'
    rcases of_get?_add hget' with hold | ⟨he, heq⟩
    · exact h.below q' _ hq' hcomparable hold
    · rw [List.append_assoc, List.append_cancel_left_eq] at heq
      exact .inl ⟨he, f, hf, heq ▸ hq⟩

/-- A directory is made as far as it can be made. -/
theorem makeFolders (hf : f ∈ done) (hp : Path.names p = xs ++ f) (hstart : t₀.start p = b) :
    Grown t₀ a ms done (t.makeFolders p).2 := by
  refine makeFoldersFrom_induction (P := Grown t₀ a ms done) h fun t' q place h' hq hfresh => ?_
  have hstart' : t'.start p = b := (h'.start_eq p).trans hstart
  obtain ⟨hpre, hsame⟩ := names_of_freshPlace hq hfresh
  exact h'.add hms hapart hup hleads hf (hp ▸ hpre) (hsame.trans hstart') hfresh

end Directory

/-- A copy into one of the directories. -/
theorem copied (h : Grown t₀ a ms done t) (hwf₀ : t₀.WellFormed) (hf : f ∈ done)
    (hfree : t₀.get? (a ++ f) = none) (hwf : t'.WellFormed) (hhome : t'.home = t.home)
    (hget : ∀ q, (a ++ f <+: q → q = a ++ f) → t'.get? q = t.get? q) :
    Grown t₀ a ms done t' where
  wellFormed := hwf
  home := hhome.trans h.home
  isExtended := fun q e hq => by
    by_cases hinside : a ++ f <+: q
    · obtain ⟨rest, rfl⟩ := hinside
      rw [hwf₀.get?_append_eq_none hfree rest] at hq
      cases hq
    · rw [hget q fun hpre => absurd hpre hinside]
      exact h.isExtended q e hq
  below := fun q e hq hcomparable hget' => by
    by_cases hinside : f <+: q ∧ f ≠ q
    · exact .inr ⟨f, hf, hinside⟩
    · refine h.below q e hq hcomparable ?_
      rwa [hget] at hget'
      intro hpre
      have hfq : f <+: q := (List.prefix_append_right_inj a).1 hpre
      rw [Decidable.byContradiction fun hne => hinside ⟨hfq, hne⟩]

/-- The path of a directory, made absolute, leads to this directory if it leads anywhere. -/
theorem find_absolute (h : Grown t₀ a ms done t) (hwf₀ : t₀.WellFormed) (hms : ms <+: f)
    (hapart : ∀ g ∈ done, g = f ∨ Apart f g) (hup : Path.upName ∉ f)
    (hleads : Leads t₀ k (t₀.start p) xs a) (hp : Path.names p = xs ++ f)
    (habsolute : Path.absolute? t.homePath p = .ok path)
    (hfind : t.find path true = .ok (c, .folder)) : c = a ++ f := by
  have hne : p ≠ [] := by
    rintro rfl
    cases habsolute
  obtain ⟨q, hq, hroot, -, -, hnames⟩ := h.wellFormed.absolute?_eq_ok hne
  obtain rfl : q = path := Except.ok.inj (hq.symm.trans habsolute)
  have hsame : t.origin p = t₀.origin p := by rw [origin, origin, h.home]
  have hnames : Path.names q = (t₀.origin p ++ xs) ++ f := by
    rw [hnames, hp, hsame, List.append_assoc]
  obtain ⟨-, -, k', -, hway⟩ := leads_of_find hfind
  rw [FileTree.start, if_pos hroot, hnames] at hway
  exact h.place_eq hms hapart hup (hwf₀.leads_absolute hleads) (List.prefix_refl f) hway

end Grown

end FileTree

/-! ## The place of another image -/

namespace Destination

variable {t₀ t : FileTree} {a : Place} {k : Nat} {n : Name} {ms xs zs f : List Name}
  {done : List (List Name)} {location : String}

/-- The place of another image, apart from the others, is not taken. What is made of its directory is
a part of it. -/
theorem prepare_grown (h : FileTree.Grown t₀ a ms done t) (hms : ms <+: f) (hne : f ≠ [])
    (hapart : ∀ g ∈ done, FileTree.Apart f g) (hup : Path.upName ∉ f)
    (hleads : FileTree.Leads t₀ k (t₀.start (Path.ofString location)) xs a)
    (hp : Path.names (Path.ofString location) = xs ++ f) :
    FileTree.Grown t₀ a ms (done ++ [f]) (prepare t location .folder).2 ∧
      (∀ path, (prepare t location .folder).1 ≠ .error (.destinationExists path)) ∧
      ∀ target, (prepare t location .folder).1 = .ok target → ∃ path, target = .inFolder path ∧
        Path.absolute? (prepare t location .folder).2.homePath (Path.ofString location) =
          .ok path := by
  have hgrown := h.insert f
  have hmade : FileTree.Grown t₀ a ms (done ++ [f]) (t.makeFolders (Path.ofString location)).2 :=
    hgrown.makeFolders hms (FileTree.eq_or_apart hapart) hup hleads (by simp) hp rfl
  have hprepared := prepared t location
  generalize (prepare t location .folder).1 = result at hprepared ⊢
  generalize (prepare t location .folder).2 = t' at hprepared ⊢
  cases hprepared with
  | unusable => exact ⟨hgrown, nofun, nofun⟩
  | notMade hfolders =>
      rw [hfolders] at hmade
      exact ⟨hmade, nofun, nofun⟩
  | unnamed hfolders =>
      rw [hfolders] at hmade
      exact ⟨hmade, nofun, nofun⟩
  | made hfolders hpath =>
      rw [hfolders] at hmade
      exact ⟨hmade, nofun, fun target htarget => ⟨_, (Except.ok.inj htarget).symm, hpath⟩⟩
  | taken hfind =>
      -- nothing lies at the place, so nothing could be found there
      obtain ⟨front, m, rfl, k', -, c, hway, hget⟩ :=
        FileTree.leads_of_find_behind hfind hp hne hup
      rw [h.start_eq] at hway
      have hplace := h.place_eq hms (fun g hg => .inr (hapart g hg)) hup hleads
        (List.prefix_append front [m]) hway
      rw [hplace, List.append_assoc] at hget
      exact absurd (h.get?_eq_none hms hne hapart) hget

/-- Where something that leads nowhere stands in the way to a place, nothing is made. -/
theorem prepare_blocked (hleads : FileTree.Leads t k (t.start (Path.ofString location)) xs a)
    (hget : t.get? (a ++ [n]) ≠ none)
    (hstop : ∀ k ≤ FileTree.maxLinks, ∀ b,
      ¬FileTree.Leads t k (t.start (Path.ofString location)) (xs ++ [n]) b)
    (hup : Path.upName ∉ zs) (hne : zs ≠ [])
    (hp : Path.names (Path.ofString location) = xs ++ n :: zs) :
    ∃ e, prepare t location .folder = (.error e, t) ∧ ∀ path, e ≠ .destinationExists path := by
  have hlost : ∀ b e, t.find (Path.ofString location) true ≠ .ok (b, e) := by
    intro b e hfind
    have hp' : Path.names (Path.ofString location) = (xs ++ [n]) ++ zs := by simp [hp]
    obtain ⟨front, m, rfl, k', hk', c, hway, -⟩ :=
      FileTree.leads_of_find_behind hfind hp' hne hup
    obtain ⟨k₁, k₂, d, hsum, hfirst, -⟩ := hway.of_append
    exact hstop k₁ (by omega) d hfirst
  have hfresh : ∀ q ∈ Path.ofString location :: Path.parents (Path.ofString location), ∀ place,
      t.freshPlace q ≠ .ok place := by
    intro q hq place hfresh
    obtain ⟨hpre, hstart⟩ := FileTree.names_of_freshPlace hq hfresh
    rw [← hstart] at hleads hstop
    exact FileTree.freshPlace_ne_ok_of_stop hleads hget hstop (hp ▸ hpre) hfresh
  obtain ⟨htree, hfolder⟩ := FileTree.makeFoldersFrom_of_not_fresh hfresh
  have hnot : ∀ t', t.makeFolders (Path.ofString location) ≠ (.ok (), t') := by
    intro t' hmade
    have hfolder := hfolder _ rfl (FileTree.ne_nil_of_names_eq hp) (congrArg Prod.fst hmade)
    obtain ⟨b, hfind⟩ := FileTree.exists_find_of_isFolder hfolder
    exact hlost b .folder hfind
  have hprepared := prepared t location
  generalize prepare t location .folder = outcome at hprepared ⊢
  obtain ⟨result, t'⟩ := outcome
  cases hprepared with
  | taken hfind => exact absurd hfind (hlost _ _)
  | unusable => exact ⟨_, rfl, nofun⟩
  | notMade hfolders =>
      obtain rfl : t' = t := (congrArg Prod.snd hfolders).symm.trans htree
      exact ⟨_, rfl, nofun⟩
  | unnamed hfolders => exact absurd hfolders (hnot _)
  | made hfolders => exact absurd hfolders (hnot _)

end Destination

end ImageSync
