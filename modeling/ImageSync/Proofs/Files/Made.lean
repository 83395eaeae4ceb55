import ImageSync.Proofs.Files.Fresh

/-!
# A directory that is made is new

Making a directory with those above it counts a directory that is there already as made. If the path
did not exist before, that happens to a path with a step `..` behind a missing directory only: once
this directory is made, the path leads to something else. For any other path, the directory that it
leads to in the end is a new and empty one.

## Main definitions

* `FileTree.IsNewFolder t t' p place`: between two trees, a path has got a directory of its own.
* `FileTree.Along t₀ a ms t`: a tree with directories on one way.

## Main statements

* `FileTree.Along.add`: a directory that is created on the way.
* `FileTree.exists_isNewFolder`: a path that did not exist leads to a new directory.
-/

namespace ImageSync.FileTree

open Text

variable {t₀ t t' : FileTree} {p q : Path} {a b place : Place} {k : Nat} {n : Name}
  {ns ms xs ys : List Name}

/-! ## New directories -/

/-- In the second tree the path leads to a directory with nothing in it, at a place where in the
first one nothing was. Everything else that was there still is. -/
structure IsNewFolder (t t' : FileTree) (p : Path) (place : Place) : Prop where
  closed : t'.Closed
  home : t'.home = t.home
  removed : t'.removed = t.removed
  limits : t'.limits = t.limits
  isExtended : t.Extends t'
  free : t.get? place = none
  found : t'.find p true = .ok (place, .folder)
  empty : ∀ ns, ns ≠ [] → t'.get? (place ++ ns) = none

theorem checkText_add (t : FileTree) (place : Place) (e : Entry) (p : Path) :
    (t.add place e).checkText p = t.checkText p := rfl

/-- A created directory is a new one. -/
theorem isNewFolder_add (ht : t.Closed) (hfresh : t.freshPlace p = .ok place) :
    IsNewFolder t (t.add place .folder) p place := by
  obtain ⟨-, m, c, -, -, -, hm, -, hlast, -⟩ := freshPlace_eq_ok hfresh
  obtain ⟨hcheck, front, n, b, hsegments, hwalk, hhere, hup, hname, hplace, hget⟩ :=
    walk_of_freshPlace hfresh
  have hb := ht.folder_of_freshPlace hfresh hplace
  have hadded : (t.add place .folder).get? place = some .folder := by
    rw [get?_add t place _ (by simp [hplace]), hget, if_pos rfl, Option.none_or]
  constructor
  case closed =>
    obtain ⟨rfl, hnm⟩ := List.append_inj' (hplace.symm.trans hlast) rfl
    obtain rfl : n = m := by simpa using hnm
    rw [hplace] at hget ⊢
    exact ht.add hm hb hget .folder
  case home => rfl
  case removed => rfl
  case limits => rfl
  case isExtended => exact extends_add t place .folder
  case free => exact hget
  case found =>
    obtain ⟨left, hon⟩ := walk_append (walk_mono (extends_add t place .folder) rfl hwalk)
      (Path.endsInSlash p) (List.cons_ne_nil n [])
    have hnew : (t.add place .folder).get? (b ++ [n]) = some .folder := by rwa [← hplace]
    have hstep : (t.add place .folder).walk true (Path.endsInSlash p) left b [n] =
        .ok (.found place .folder) := by
      have hshort : (t.add place .folder).exceedsName n = false := hname
      rw [walk_folder hhere hup hshort hnew, walk_nil, ← hplace]
    have hstart : (t.add place .folder).start p = t.start p := rfl
    refine find_eq_ok_iff.2 ⟨(checkText_add t place .folder p).trans hcheck, ?_⟩
    rw [hsegments, hstart, hon, hstep]
  case empty =>
    intro ns hns
    have hne : place ++ ns ≠ [] := by simp [hns]
    rw [get?_add t place _ hne, ht.get?_append_eq_none hget, if_neg (by simpa using hns),
      Option.none_or]

theorem IsNewFolder.wellFormed (h : IsNewFolder t t' p place) (hwf : t.WellFormed) :
    t'.WellFormed :=
  ⟨h.closed, h.removed.trans hwf.kept⟩

/-- What is new in a larger tree is new. -/
theorem IsNewFolder.of_extends (h : IsNewFolder t t' p place) (hext : t₀.Extends t)
    (hhome : t.home = t₀.home) (hremoved : t.removed = t₀.removed)
    (hlimits : t.limits = t₀.limits) : IsNewFolder t₀ t' p place where
  closed := h.closed
  home := h.home.trans hhome
  removed := h.removed.trans hremoved
  limits := h.limits.trans hlimits
  isExtended := hext.trans h.isExtended
  free := by
    cases hget : t₀.get? place with
    | none => rfl
    | some e => exact absurd h.free (by simp [hext _ _ hget])
  found := h.found
  empty := h.empty

/-! ## Directories on a way -/

/-- The tree `t` is `t₀` with some of the directories on the way of the names `ms` from `a` on. -/
structure Along (t₀ : FileTree) (a : Place) (ms : List Name) (t : FileTree) : Prop where
  wellFormed : t.WellFormed
  home : t.home = t₀.home
  limits : t.limits = t₀.limits
  isExtended : t₀.Extends t
  origin : ∀ q e, t.get? q = some e →
    t₀.get? q = some e ∨ e = .folder ∧ ∃ ns, ns <+: ms ∧ q = a ++ ns

namespace Along

theorem start (hwf : t.WellFormed) : Along t a ms t where
  wellFormed := hwf
  home := rfl
  limits := rfl
  isExtended := fun _ _ h => h
  origin := fun _ _ h => .inl h

theorem start_eq (h : Along t₀ a ms t) (p : Path) : t.start p = t₀.start p := by
  rw [FileTree.start, FileTree.start, h.home]

section Free

variable (h : Along t₀ a ms t) (hwf₀ : t₀.WellFormed) (hfree : t₀.get? (a ++ [n]) = none)
include h hwf₀ hfree

/-- Where nothing lay, there are only the directories on the way. -/
theorem of_get? {q : List Name} {e : Entry} (hpre : [n] <+: q)
    (hget : t.get? (a ++ q) = some e) : e = .folder ∧ q <+: ms := by
  rcases h.origin _ _ hget with hold | ⟨he, ns, hns, hq⟩
  · obtain ⟨rest, rfl⟩ := hpre
    rw [← List.append_assoc, hwf₀.get?_append_eq_none hfree rest] at hold
    cases hold
  · rw [List.append_cancel_left hq]
    exact ⟨he, hns⟩

theorem eq_folder : ∀ q, q ≠ [] → q <+: n :: ys → ∀ e, t.get? (a ++ q) = some e → e = .folder := by
  intro q hq hpre e hget
  obtain ⟨m, rest, rfl⟩ := List.exists_cons_of_ne_nil hq
  obtain rfl : m = n := (List.cons_prefix_cons.1 hpre).1
  exact (h.of_get? hwf₀ hfree ⟨rest, rfl⟩ hget).1

variable (hup : Path.upName ∉ n :: ys) (hleads : Leads t₀ k b xs a)
include hup hleads

/-- A directory that is created for a part of the way lies on the way. -/
theorem add (hms : ms <+: n :: ys) (hp : Path.names p <+: xs ++ ms) (hstart : t.start p = b)
    (hfresh : t.freshPlace p = .ok place) : Along t₀ a ms (t.add place .folder) := by
  have hway := hleads.mono h.isExtended
  rw [← hstart] at hway
  obtain ⟨q, m, hq, hplace, -, -, -⟩ := freshPlace_along h.wellFormed hway
    (fun hmem => hup (hms.subset hmem))
    (fun q hq hpre => h.eq_folder hwf₀ hfree q hq (hpre.trans hms)) hp hfresh
  have hnew := isNewFolder_add h.wellFormed.toClosed hfresh
  constructor
  case wellFormed => exact hnew.wellFormed h.wellFormed
  case home => exact h.home
  case limits => exact h.limits
  case isExtended => exact h.isExtended.trans hnew.isExtended
  case origin =>
    intro q' e hget
    rcases of_get?_add hget with hold | ⟨he, heq⟩
    · exact h.origin q' _ hold
    · exact .inr ⟨he, q ++ [m], hq, by rw [heq, hplace, List.append_assoc]⟩

/-- The directories above a path, of which the names go on behind the way, are made on the way. -/
theorem makeParents (hdrop : ms = (n :: ys).dropLast) (hp : Path.names p = xs ++ n :: ys)
    (hstart : t₀.start p = b) : Along t₀ a ms (t.makeFoldersFrom (Path.parents p)).2 := by
  have hms : ms <+: n :: ys := hdrop ▸ List.dropLast_prefix _
  refine makeFoldersFrom_induction (P := Along t₀ a ms) h fun t' q place h' hq hfresh => ?_
  obtain ⟨-, hsame⟩ := names_of_freshPlace (List.mem_cons_of_mem p hq) hfresh
  have hpre := (Path.names_of_mem_parents hq).1
  rw [hp, List.dropLast_append_of_ne_nil (List.cons_ne_nil n ys), ← hdrop] at hpre
  exact h'.add hwf₀ hfree hup hleads hms hpre (hsame.trans ((h'.start_eq p).trans hstart)) hfresh

/-- A path of which the names go on behind the way leads to no directory yet. -/
theorem isFolder_eq_false (hdrop : ms = (n :: ys).dropLast) (hp : Path.names p = xs ++ n :: ys)
    (hstart : t₀.start p = b) : t.isFolder p = false := by
  rw [Bool.eq_false_iff]
  intro hfolder
  obtain ⟨c, hfind⟩ := exists_find_of_isFolder hfolder
  obtain ⟨-, -, k', -, hway⟩ := leads_of_find hfind
  have hget := h.wellFormed.folder_of_leads hway
  rw [h.start_eq, hstart, hp] at hway
  obtain ⟨k'', -, hon⟩ := (hleads.mono h.isExtended).of_leads_append hway
  rw [hon.eq_append hup (h.eq_folder hwf₀ hfree)] at hget
  have hlength := (h.of_get? hwf₀ hfree ⟨ys, rfl⟩ hget).2.length_le
  rw [hdrop, List.length_dropLast, List.singleton_append] at hlength
  simp only [List.length_cons] at hlength
  omega

end Free

end Along

/-! ## Making a directory -/

/-- How a directory can have been made: it was there, or it comes last, behind those above it. -/
theorem makeFolders_eq_ok (hne : p ≠ []) (h : t.makeFolders p = (.ok (), t')) :
    ∃ t₁, (t₁ = t ∨ t₁ = (t.makeFoldersFrom (Path.parents p)).2) ∧
      (t₁.isFolder p = true ∧ t' = t₁ ∨
        ∃ place, t₁.freshPlace p = .ok place ∧ t' = t₁.add place .folder) := by
  rw [makeFolders, makeFoldersFrom, if_neg (by simpa using hne)] at h
  split at h
  · cases h
    exact ⟨t, .inl rfl, .inr (exists_freshPlace ‹_›)⟩
  · split at h
    · by_cases hfolder : t.isFolder p = true
      · rw [if_pos hfolder] at h
        cases h
        exact ⟨t, .inl rfl, .inl ⟨hfolder, rfl⟩⟩
      · rw [if_neg hfolder] at h
        cases h
    · split at h
      · cases h
      · rename_i t₁ habove
        refine ⟨t₁, .inr (by rw [habove]), ?_⟩
        rw [makeFolderUnlessThere] at h
        split at h
        · cases h
          exact .inr (exists_freshPlace ‹_›)
        · by_cases hfolder : t₁.isFolder p = true
          · rw [if_pos hfolder] at h
            cases h
            exact .inl ⟨hfolder, rfl⟩
          · rw [if_neg hfolder] at h
            cases h

/-- Making a directory for a path that did not exist, and in which every `..` comes behind a way to
a directory, gives the path a new directory. -/
theorem exists_isNewFolder (hwf : t.WellFormed) (hne : p ≠ [])
    (hmissing : t.stat p = .error .notFound) (hclimbs : t.Climbs p)
    (h : t.makeFolders p = (.ok (), t')) : ∃ place, IsNewFolder t t' p place := by
  obtain ⟨xs, a, n, ys, hstops⟩ := exists_stops (hwf.endsKept p) hmissing hne hclimbs
  obtain ⟨k, -, hleads⟩ := hstops.leads
  have hnot : t.isFolder p = false := by simp [isFolder, hmissing]
  by_cases hfree : t.get? (a ++ [n]) = none
  · obtain ⟨t₁, ht₁, hlast⟩ := makeFolders_eq_ok hne h
    have halong : Along t a (n :: ys).dropLast t₁ := by
      rcases ht₁ with rfl | rfl
      · exact .start hwf
      · exact (Along.start hwf).makeParents hwf hfree hstops.up_notMem hleads rfl hstops.names rfl
    rcases hlast with ⟨hfolder, -⟩ | ⟨place, hfresh, rfl⟩
    · rw [halong.isFolder_eq_false hwf hfree hstops.up_notMem hleads rfl hstops.names rfl]
        at hfolder
      cases hfolder
    · have hnew := isNewFolder_add halong.wellFormed.toClosed hfresh
      have hremoved : t₁.removed = t.removed := halong.wellFormed.kept.trans hwf.kept.symm
      exact ⟨place, hnew.of_extends halong.isExtended halong.home hremoved halong.limits⟩
  · -- something in the way that does not lead on, so nothing is made at all
    have hblocked : ∀ q ∈ p :: Path.parents p, ∀ place, t.freshPlace q ≠ .ok place := by
      intro q hq place hfresh
      obtain ⟨hpre, hstart⟩ := names_of_freshPlace hq hfresh
      have hnotLeads := hstops.not_leads
      rw [← hstart] at hleads hnotLeads
      exact freshPlace_ne_ok_of_stop hleads hfree hnotLeads (hstops.names ▸ hpre) hfresh
    have hfolder := (makeFoldersFrom_of_not_fresh hblocked).2 p rfl hne (congrArg Prod.fst h)
    rw [hnot] at hfolder
    cases hfolder

end ImageSync.FileTree
