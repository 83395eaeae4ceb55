import ImageSync.Proofs.Files.Absolute
import ImageSync.Proofs.Files.Fresh
import ImageSync.Proofs.Files.Search

/-!
# The directory that is searched

A search starts from a path that was made absolute and may end in a link. Where it finds something,
the path leads to a directory, and so does the path that was made absolute.

## Main definitions

* `FileTree.Searched t p d found`: what a search from a path to a directory has found.

## Main statements

* `FileTree.exists_searched`: a search that finds something starts at a directory.
* `FileTree.WellFormed.find_of_absolute`: a path leads where it leads when it is made absolute.
* `Path.lastName?_eq_some_iff`: the last name of an absolute path.
-/

namespace ImageSync

open Text

/-! ## The last name -/

namespace Path

variable {p : Path} {n : Name}

theorem getLast?_filterMap_ofSegment {ns : List Name} (h : hereName ∉ ns) :
    (ns.filterMap Step.ofSegment).getLast? =
      ns.getLast?.map fun n => if n = upName then .up else .name n := by
  rcases List.eq_nil_or_concat ns with rfl | ⟨front, m, rfl⟩
  · rfl
  · have hm : m ≠ hereName := by
      rintro rfl
      simp at h
    simp only [List.concat_eq_append, List.filterMap_append, List.getLast?_concat, Option.map_some]
    have hstep : Step.ofSegment m = some (if m = upName then .up else .name m) := by
      rw [Step.ofSegment, if_neg hm]
      split <;> rfl
    rw [List.filterMap_cons_some hstep, List.filterMap_nil, List.getLast?_concat]

/-- The last name of an absolute path is its last segment, unless that is `..`. -/
theorem lastName?_eq_some_iff (habsolute : isAbsolute p = true) (hhere : hereName ∉ segments p) :
    lastName? p = some n ↔ (segments p).getLast? = some n ∧ n ≠ upName := by
  have hsteps : steps p = .root :: (segments p).filterMap Step.ofSegment := by
    rw [steps, if_pos habsolute]
  rw [lastName?, hsteps, List.getLast?_cons, getLast?_filterMap_ofSegment hhere]
  cases (segments p).getLast? with
  | none => simp
  | some m => by_cases hup : m = upName <;> simp [hup] <;> grind

end Path

namespace FileTree

variable {t : FileTree} {p q : Path} {a b c d : Place} {n : Name} {xs : List Name} {needed : Bool}
  {e : Entry}

/-! ## Paths to directories -/

/-- The last of some names is that of the place, unless it is `.` or `..` or a link at its end had
to be followed. -/
def NamedBy (b : Place) (needed : Bool) (xs : List Name) : Prop :=
  needed = false → ∀ n, xs.getLast? = some n → n ≠ Path.hereName → n ≠ Path.upName →
    b.getLast? = some n

theorem NamedBy.cons {x : Name} (h : NamedBy b needed xs) (hxs : xs ≠ []) :
    NamedBy b needed (x :: xs) := by
  intro hneeded n hn
  obtain ⟨y, ys, rfl⟩ := List.exists_cons_of_ne_nil hxs
  exact h hneeded n (by rwa [List.getLast?_cons_cons] at hn)

theorem walkWith_of_false {beyond beyond' : Bool → Place → List Name → Except SystemError Location}
    (hbeyond : ∀ needed a xs, beyond needed a xs = .ok (.found b .folder) →
      beyond' needed a xs = .ok (.found b .folder) ∧ NamedBy b needed xs)
    (h : t.walkWith false beyond needed a xs = .ok (.found b .folder)) :
    t.walkWith true beyond' needed a xs = .ok (.found b .folder) ∧ NamedBy b needed xs := by
  induction xs generalizing a with
  | nil => exact ⟨h, fun _ n hn => by cases hn⟩
  | cons x xs ih =>
      have hlast : ∀ {c : Place}, t.walkWith false beyond needed c xs = .ok (.found b .folder) →
          (xs = [] → x ≠ Path.hereName → x ≠ Path.upName → b.getLast? = some x) →
          t.walkWith true beyond' needed c xs = .ok (.found b .folder) ∧
            NamedBy b needed (x :: xs) := by
        intro c hrest hx
        obtain ⟨hwalk, hnamed⟩ := ih hrest
        refine ⟨hwalk, ?_⟩
        by_cases hxs : xs = []
        · intro _ n hn hhere hup
          obtain rfl : x = n := by simpa [hxs] using hn
          exact hx hxs hhere hup
        · exact hnamed.cons hxs
      unfold walkWith at h ⊢
      by_cases hhere : x = Path.hereName
      · rw [if_pos hhere] at h ⊢
        exact hlast h fun _ hne _ => absurd hhere hne
      by_cases hup : x = Path.upName
      · rw [if_neg hhere, if_pos hup] at h ⊢
        exact hlast h fun _ _ hne => absurd hup hne
      by_cases hname : t.exceedsName x = true
      · rw [if_neg hhere, if_neg hup, if_pos hname] at h
        cases h
      rw [if_neg hhere, if_neg hup, if_neg hname] at h ⊢
      cases hget : t.get? (a ++ [x]) with
      | none =>
          simp only [hget] at h
          split at h <;> cases h
      | some e =>
          cases e with
          | folder =>
              simp only [hget] at h ⊢
              refine hlast h fun hxs _ _ => ?_
              rw [hxs] at h
              cases h
              exact List.getLast?_concat
          | file content =>
              simp only [hget] at h
              split at h <;> cases h
          | link target =>
              simp only [hget] at h ⊢
              split at h
              · cases h
              · rename_i hon
                simp only [Bool.not_true, Bool.and_false, Bool.false_and, Bool.false_eq_true,
                  if_false]
                obtain ⟨hwalk, hnamed⟩ := hbeyond _ _ _ h
                refine ⟨hwalk, fun hneeded n hn => ?_⟩
                have hxs : xs ≠ [] := by
                  rintro rfl
                  simp [hneeded] at hon
                obtain ⟨y, ys, rfl⟩ := List.exists_cons_of_ne_nil hxs
                refine hnamed (by simp [hneeded]) n ?_
                rw [List.getLast?_append, ← List.getLast?_cons_cons, hn]
                rfl

/-- Where a path leads that does not end in a link, it leads also if links are followed, and it is
the name of the place that stands at its end. -/
theorem walk_of_false {links : Nat}
    (h : t.walk false needed links a xs = .ok (.found b .folder)) :
    t.walk true needed links a xs = .ok (.found b .folder) ∧ NamedBy b needed xs := by
  induction links generalizing needed a xs with
  | zero => exact walkWith_of_false (fun _ _ _ herror => by cases herror) h
  | succ links ih => exact walkWith_of_false (fun _ _ _ h => ih h) h

theorem find_of_false (h : t.find p false = .ok (d, .folder)) :
    t.find p true = .ok (d, .folder) ∧ NamedBy d (Path.endsInSlash p) (Path.segments p) := by
  obtain ⟨hcheck, hwalk⟩ := find_eq_ok_iff.1 h
  obtain ⟨hwalk', hnamed⟩ := walk_of_false hwalk
  exact ⟨find_eq_ok_iff.2 ⟨hcheck, hwalk'⟩, hnamed⟩

theorem exists_find_of_stat (h : t.stat p = .ok e) : ∃ place, t.find p true = .ok (place, e) := by
  rw [stat] at h
  cases hfind : t.find p true with
  | error e' => simp [hfind, Except.map] at h
  | ok found =>
      rw [hfind] at h
      cases h
      exact ⟨found.1, rfl⟩

/-- A path leads where it leads when it is made absolute, if both lead anywhere. -/
theorem WellFormed.find_of_absolute (h : t.WellFormed)
    (habsolute : Path.absolute? t.homePath p = .ok q) (hq : t.find q true = .ok (d, .folder))
    (hp : t.find p true = .ok (c, e)) : t.find p true = .ok (d, .folder) := by
  obtain ⟨hne, hnul⟩ := of_checkText (find_eq_ok_iff.1 hp).1
  obtain ⟨q', hq', hroot, -, -, hnames⟩ := h.absolute?_eq_ok hne
  obtain rfl : q = q' := Except.ok.inj (habsolute.symm.trans hq')
  obtain ⟨-, -, k, hk, hleads⟩ := leads_of_find hq
  rw [start, if_pos hroot, hnames] at hleads
  obtain ⟨k', hk', hon⟩ : ∃ k' ≤ k, Leads t k' (t.start p) (Path.names p) d := by
    rw [origin] at hleads
    rw [start]
    split
    · rename_i hp
      rw [if_pos hp] at hleads
      exact ⟨k, Nat.le_refl k, hleads⟩
    · rename_i hp
      rw [if_neg hp] at hleads
      have hhome : Leads t 0 [] t.home t.home :=
        .of_place h h.get?_home fun hmem => (h.proper_home _ hmem).ne_up rfl
      exact hhome.of_leads_append hleads
  rcases find_eq_folder_or (h.endsKept p) hne hnul hon (Nat.le_trans hk' hk) with hfolder | hlong
  · exact hfolder
  · rw [hp] at hlong
    cases hlong

/-! ## What was found -/

/-- What a search from the path `p` to the directory `d` has found: directories that are images, by
their names from `d` on. The directory `d` itself is found alone, and not by way of a link at the
end of the path. -/
structure Searched (t : FileTree) (p : Path) (d : Place) (found : List (List Name)) : Prop where
  leads : t.find p true = .ok (d, .folder)
  image : ∀ ns ∈ found, t.get? (d ++ ns) = some .folder ∧ t.holdsImage (p.below ns) = true
  alone : [] ∈ found → found = [[]] ∧ t.find p false = .ok (d, .folder)

theorem searched_of_folder (h : t.WellFormed) (hp : t.find p false = .ok (d, .folder)) :
    t.Searched p d (t.outermost p d) where
  leads := (find_of_false hp).1
  image ns hns := by
    have houter := (mem_outermost_iff h.toClosed).1 hns
    exact ⟨houter.folder_of_prefix (h.get?_of_find hp) (List.prefix_refl ns), houter.image⟩
  alone hnil := by
    have hholds : t.holdsImage p = true := ((mem_outermost_iff h.toClosed).1 hnil).image
    refine ⟨?_, hp⟩
    rw [outermost_eq, if_pos hholds]

theorem searched_of_link (h : t.WellFormed) (hp : t.find p true = .ok (d, .folder)) :
    t.Searched p d (t.outermostWithin p d) where
  leads := hp
  image ns hns := by
    obtain ⟨n, rest, rfl, hget, houter⟩ := (mem_outermostWithin_iff h.toClosed).1 hns
    have hfolder := houter.folder_of_prefix hget (List.prefix_refl rest)
    exact ⟨by simpa using hfolder, houter.image⟩
  alone hnil := by
    obtain ⟨n, rest, hnil, -⟩ := (mem_outermostWithin_iff h.toClosed).1 hnil
    cases hnil

/-- A search that finds something starts at a directory. -/
theorem exists_searched (h : t.WellFormed) {paths : List Path} (hpaths : t.findImages p = .ok paths)
    (hne : paths ≠ []) : ∃ d found, paths = found.map p.below ∧ t.Searched p d found := by
  have hmapped : ∀ {found : Except SearchError (List (List Name))},
      found.map (List.map p.below) = .ok paths → ∃ names, found = .ok names ∧
        paths = names.map p.below := by
    intro found hfound
    cases found with
    | error e => cases hfound
    | ok names => exact ⟨names, rfl, (Except.ok.inj hfound).symm⟩
  cases hp : t.find p false with
  | error e =>
      rw [findImages, hp] at hpaths
      cases hpaths
  | ok place =>
      obtain ⟨d, e⟩ := place
      cases e with
      | folder =>
          simp only [findImages, hp] at hpaths
          obtain ⟨names, hnames, rfl⟩ := hmapped hpaths
          obtain rfl := eq_outermostBelow h.toClosed (h.endsKept p)
            (readAt_of_find (find_of_false hp).1) hnames
          exact ⟨d, _, rfl, searched_of_folder h hp⟩
      | file content =>
          rw [findImages, hp] at hpaths
          exact absurd (Except.ok.inj hpaths).symm hne
      | link target =>
          cases hlink : t.find p true with
          | error e =>
              simp only [findImages, hp, hlink] at hpaths
              cases hpaths
          | ok place =>
              obtain ⟨d', e⟩ := place
              cases e with
              | folder =>
                  simp only [findImages, hp, hlink] at hpaths
                  obtain ⟨names, hnames, rfl⟩ := hmapped hpaths
                  obtain rfl := eq_within h.toClosed hnames (readAt_of_find hlink)
                    fun n hget _ found hfound => eq_outermostBelow h.toClosed (h.endsKept _)
                      (.append h.toClosed (h.endsKept p) hlink hget) hfound
                  exact ⟨d', _, rfl, searched_of_link h hlink⟩
              | file content =>
                  simp only [findImages, hp, hlink] at hpaths
                  exact absurd (Except.ok.inj hpaths).symm hne
              | link target' =>
                  simp only [findImages, hp, hlink] at hpaths
                  exact absurd (Except.ok.inj hpaths).symm hne

theorem Searched.isProper {found : List (List Name)} (h : t.Searched p d found)
    (hwf : t.WellFormed) {ns : List Name} (hns : ns ∈ found) : ∀ n ∈ ns, Path.IsProper n :=
  fun n hn => hwf.proper_of_get? (h.image ns hns).1 n (List.mem_append_right d hn)

end FileTree

end ImageSync
