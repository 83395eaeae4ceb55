import ImageSync.Files.Create
import ImageSync.Proofs.Files.Walk

/-!
# New directories

Creating a directory below one that exists creates the missing ones between them and nothing else.

## Main definitions

* `FileTree.addFolders t a ns`: the tree with directories of these names, each in the one before.

## Main statements

* `FileTree.WellFormed.addFolders`: the tree stays well formed.
* `FileTree.makeFolders_eq`: what is created for a path of which only a part exists.
-/

namespace ImageSync.FileTree

/-! ## Adding directories -/

/-- The tree with directories of these names, the first in the directory `a` and each other one in the
one before. -/
def addFolders (t : FileTree) (a : Place) : List Name → FileTree
  | [] => t
  | n :: ns => (t.add (a ++ [n]) .folder).addFolders (a ++ [n]) ns

variable {t : FileTree} {a q : Place} {n : Name} {ns ms : List Name} {e : Entry}

@[simp] theorem home_addFolders (t : FileTree) (a : Place) (ns : List Name) :
    (t.addFolders a ns).home = t.home := by
  induction ns generalizing t a with
  | nil => rfl
  | cons n ns ih => exact ih (t.add (a ++ [n]) .folder) (a ++ [n])

@[simp] theorem limits_addFolders (t : FileTree) (a : Place) (ns : List Name) :
    (t.addFolders a ns).limits = t.limits := by
  induction ns generalizing t a with
  | nil => rfl
  | cons n ns ih => exact ih (t.add (a ++ [n]) .folder) (a ++ [n])

@[simp] theorem removed_addFolders (t : FileTree) (a : Place) (ns : List Name) :
    (t.addFolders a ns).removed = t.removed := by
  induction ns generalizing t a with
  | nil => rfl
  | cons n ns ih => exact ih (t.add (a ++ [n]) .folder) (a ++ [n])

@[simp] theorem start_addFolders (t : FileTree) (a : Place) (ns : List Name) (p : Path) :
    (t.addFolders a ns).start p = t.start p := by
  rw [start, start, home_addFolders]

@[simp] theorem homePath_addFolders (t : FileTree) (a : Place) (ns : List Name) :
    (t.addFolders a ns).homePath = t.homePath := by
  rw [homePath, homePath, home_addFolders]

theorem addFolders_concat (t : FileTree) (a : Place) (ns : List Name) (n : Name) :
    t.addFolders a (ns ++ [n]) = (t.addFolders a ns).add (a ++ ns ++ [n]) .folder := by
  induction ns generalizing t a with
  | nil => simp [addFolders]
  | cons m ns ih =>
      rw [List.cons_append, addFolders, ih, addFolders]
      simp

theorem extends_addFolders (t : FileTree) (a : Place) (ns : List Name) :
    t.Extends (t.addFolders a ns) := by
  induction ns generalizing t a with
  | nil => exact fun _ _ h => h
  | cons n ns ih => exact (extends_add t (a ++ [n]) .folder).trans (ih _ _)

/-- An entry of the new tree is an old one or one of the new directories. -/
theorem of_get?_addFolders (h : (t.addFolders a ns).get? q = some e) :
    t.get? q = some e ∨ (e = .folder ∧ ∃ m, m ≠ [] ∧ m <+: ns ∧ q = a ++ m) := by
  induction ns generalizing t a with
  | nil => exact .inl h
  | cons n ns ih =>
      rcases ih h with h | ⟨he, m, hm, hpre, hq⟩
      · rcases of_get?_add h with hold | ⟨he, hplace⟩
        · exact .inl hold
        · exact .inr ⟨he, [n], by simp, ⟨ns, rfl⟩, hplace⟩
      · exact .inr ⟨he, n :: m, by simp, (List.prefix_cons_inj n).2 hpre, by simp [hq]⟩

/-- The new directories are there, unless something else was. -/
theorem get?_addFolders (hm : ms ≠ []) (hpre : ms <+: ns) (hfresh : t.get? (a ++ ms) = none) :
    (t.addFolders a ns).get? (a ++ ms) = some .folder := by
  induction ns generalizing t a ms with
  | nil => exact absurd (List.prefix_nil.1 hpre) hm
  | cons n ns ih =>
      cases ms with
      | nil => exact absurd rfl hm
      | cons m ms =>
          obtain ⟨rfl, hrest⟩ := List.cons_prefix_cons.1 hpre
          have hadded : (t.add (a ++ [m]) .folder).get? (a ++ m :: ms) =
              if a ++ m :: ms = a ++ [m] then some .folder else none := by
            rw [get?_add t _ _ (by simp), hfresh, Option.none_or]
          by_cases hms : ms = []
          · subst hms
            rw [if_pos rfl] at hadded
            exact extends_addFolders (t.add (a ++ [m]) .folder) (a ++ [m]) ns _ _ hadded
          · rw [if_neg (by simpa using hms)] at hadded
            have hnext : (t.add (a ++ [m]) .folder).get? (a ++ [m] ++ ms) = none := by
              simpa using hadded
            simpa [addFolders] using ih hms hrest hnext

/-- Below a directory that lacks the first of some names, none of them is there. -/
theorem WellFormed.get?_eq_none_of_head (h : t.WellFormed) (hfresh : t.get? (a ++ [n]) = none)
    (hm : ms ≠ []) (hpre : ms <+: n :: ns) : t.get? (a ++ ms) = none := by
  cases ms with
  | nil => exact absurd rfl hm
  | cons m ms =>
      obtain ⟨rfl, -⟩ := List.cons_prefix_cons.1 hpre
      simpa using h.get?_append_eq_none hfresh ms

/-- The last of the new directories is empty. -/
theorem WellFormed.get?_addFolders_below (h : t.WellFormed) (hfresh : t.get? (a ++ [n]) = none)
    (hms : ms ≠ []) : (t.addFolders a (n :: ns)).get? (a ++ n :: ns ++ ms) = none := by
  cases hget : (t.addFolders a (n :: ns)).get? (a ++ n :: ns ++ ms) with
  | none => rfl
  | some e =>
      rcases of_get?_addFolders hget with hold | ⟨-, l, -, hpre, hplace⟩
      · have hnone := h.get?_append_eq_none hfresh (ns ++ ms)
        have hplace : a ++ n :: ns ++ ms = a ++ [n] ++ (ns ++ ms) := by simp
        rw [hplace, hnone] at hold
        cases hold
      · have hlength := hpre.length_le
        rw [List.append_assoc, List.append_cancel_left_eq] at hplace
        rw [← hplace, List.length_append] at hlength
        have hpos := List.length_pos_iff.2 hms
        omega

/-- All of the new directories are there. -/
theorem WellFormed.get?_addFolders (h : t.WellFormed) (hfresh : t.get? (a ++ [n]) = none)
    (hm : ms ≠ []) (hpre : ms <+: n :: ns) :
    (t.addFolders a (n :: ns)).get? (a ++ ms) = some .folder :=
  FileTree.get?_addFolders hm hpre (h.get?_eq_none_of_head hfresh hm hpre)

/-- A tree stays well formed when missing directories are added to one that exists. -/
theorem WellFormed.addFolders (h : t.WellFormed) (hproper : ∀ m ∈ n :: ns, Path.IsProper m)
    (ha : t.get? a = some .folder) (hfresh : t.get? (a ++ [n]) = none) :
    (t.addFolders a (n :: ns)).WellFormed := by
  induction ns using List.reverseRecOn with
  | nil => exact h.add (hproper n List.mem_cons_self) ha hfresh .folder
  | append_singleton ns m ih =>
      have hwf := ih fun l hl => hproper l (by
        rcases List.mem_cons.1 hl with rfl | hl
        · exact List.mem_cons_self
        · exact List.mem_cons_of_mem n (List.mem_append_left [m] hl))
      have hparent := h.get?_addFolders hfresh (by simp) (List.prefix_refl (n :: ns))
      have hnew : (t.addFolders a (n :: ns)).get? (a ++ n :: ns ++ [m]) = none :=
        h.get?_addFolders_below hfresh (List.cons_ne_nil m [])
      have hm : Path.IsProper m := hproper m (by simp)
      have := hwf.add hm hparent hnew .folder
      rwa [← addFolders_concat] at this

/-- What leads to a directory leads to the new ones below it. -/
theorem WellFormed.leads_addFolders {k : Nat} {b : Place} (hwf : t.WellFormed)
    (h : Leads t k b ms a) (hproper : ∀ m ∈ n :: ns, Path.IsProper m)
    (hfresh : t.get? (a ++ [n]) = none) :
    Leads (t.addFolders a (n :: ns)) k b (ms ++ n :: ns) (a ++ n :: ns) := by
  have hfirst := h.mono (extends_addFolders t a (n :: ns))
  have hrest : Leads (t.addFolders a (n :: ns)) 0 a (n :: ns) (a ++ n :: ns) :=
    .of_folders (fun hmem => (hproper _ hmem).ne_up rfl) fun q hq hpre =>
      hwf.get?_addFolders hfresh hq hpre
  exact hfirst.append hrest

/-! ## Creating directories -/

section Create

variable {k : Nat} {p : Path} {front : List Name} {m : Name}

/-- The last name of a path is created in the directory that the others lead to. -/
theorem makeFolder_eq_ok (hkept : t.EndsKept p) (hlimits : t.limits = .unlimited)
    (hne : p ≠ []) (hnul : Path.nul ∉ p) (hp : Path.segments p = front ++ [n]) (hn : Path.IsProper n)
    (h : Leads t k (t.start p) (front.filter fun n => n ≠ Path.hereName) a) (hk : k ≤ maxLinks)
    (hfresh : t.get? (a ++ [n]) = none) : t.makeFolder p = .ok (t.add (a ++ [n]) .folder) := by
  have hwalk := h.walk_eq_found (exceedsName_eq_false hlimits) rfl hk true
  have hplace : t.freshPlace p = .ok (a ++ [n]) := by
    rw [freshPlace, checkText_eq_ok hkept hlimits hne hnul]
    simp only [hp, List.getLast?_concat, List.dropLast_concat, hwalk, hn.ne_here, hn.ne_up,
      exceedsName_eq_false hlimits, hfresh, or_self, if_false, Option.isSome_none,
      Bool.false_eq_true]
  rw [makeFolder, hplace]
  rfl

/-- Nothing is created if another name than the last is missing. -/
theorem makeFolder_eq_notFound (hkept : t.EndsKept p) (hlimits : t.limits = .unlimited)
    (hne : p ≠ []) (hnul : Path.nul ∉ p) (hp : Path.segments p = front ++ [m])
    (hfront : (front.filter fun n => n ≠ Path.hereName) = ns ++ n :: ms) (hn : Path.IsProper n)
    (h : Leads t k (t.start p) ns a) (hk : k ≤ maxLinks) (hfresh : t.get? (a ++ [n]) = none) :
    t.makeFolder p = .error .notFound := by
  obtain ⟨before, back, rfl, hbefore, hback⟩ := List.filter_eq_append_iff.1 hfront
  obtain ⟨dots, rest, rfl, hdots, -, -⟩ := List.filter_eq_cons_iff.1 hback
  obtain ⟨needed, hwalk⟩ := h.walk (exceedsName_eq_false hlimits) hbefore hk true (dots ++ n :: rest)
  rw [walk_skip t true needed _ a (by simpa using hdots),
    walk_none hn.ne_here hn.ne_up (exceedsName_eq_false hlimits n) hfresh] at hwalk
  have hplace : t.freshPlace p = .error .notFound := by
    rw [freshPlace, checkText_eq_ok hkept hlimits hne hnul]
    cases rest with
    | nil =>
        simp only [hp, List.getLast?_concat, List.dropLast_concat, hwalk, List.isEmpty_nil, if_true]
    | cons l rest =>
        simp only [hp, List.getLast?_concat, List.dropLast_concat, hwalk, List.isEmpty_cons,
          Bool.false_eq_true, if_false]
  rw [makeFolder, hplace]
  rfl

theorem ne_nil_of_names_eq (hp : Path.names p = ns ++ n :: ms) : p ≠ [] := by
  rintro rfl
  simp [Path.names] at hp

/-- A path that does not end in `.` is cut at its last name. -/
theorem exists_segments_eq (hend : (Path.segments p).getLast? = (Path.names p).getLast?)
    (hp : Path.names p = ns ++ [n]) : ∃ front, Path.segments p = front ++ [n] ∧
      (front.filter fun n => n ≠ Path.hereName) = ns := by
  rw [hp, List.getLast?_concat, List.getLast?_eq_some_iff] at hend
  obtain ⟨front, hfront⟩ := hend
  refine ⟨front, hfront, ?_⟩
  have hn : n ≠ Path.hereName := by
    have hmem : n ∈ Path.names p := by simp [hp]
    simpa using (List.mem_filter.1 hmem).2
  have hclean := hp
  rw [Path.names, hfront, List.filter_append, List.filter_cons_of_pos (by simpa using hn),
    List.filter_nil] at hclean
  exact List.append_cancel_right hclean

/-- The first missing name of a path and all behind it are created. -/
theorem makeFolders_eq (hlimits : t.limits = .unlimited) (hwf : t.WellFormed)
    (hup : Path.upName ∉ Path.segments p) (hnul : Path.nul ∉ p)
    (hend : (Path.segments p).getLast? = (Path.names p).getLast?)
    (hp : Path.names p = ns ++ n :: ms) (h : Leads t k (t.start p) ns a) (hk : k ≤ maxLinks)
    (hfresh : t.get? (a ++ [n]) = none) : t.makeFolders p = (.ok (), t.addFolders a (n :: ms)) := by
  have hproper : ∀ m ∈ ns ++ n :: ms, Path.IsProper m := fun m hm =>
    Path.isProper_of_mem_names hup hnul (by rwa [hp])
  induction ms using List.reverseRecOn generalizing p with
  | nil =>
      obtain ⟨front, hsegments, hfront⟩ := exists_segments_eq hend hp
      have hmade := makeFolder_eq_ok (hwf.endsKept p) hlimits (ne_nil_of_names_eq hp) hnul hsegments
        (hproper n (by simp)) (by rwa [hfront]) hk hfresh
      rw [makeFolders, makeFoldersFrom, if_neg (by simpa using ne_nil_of_names_eq hp), hmade]
      rfl
  | append_singleton ms m ih =>
      have hconcat : Path.names p = (ns ++ n :: ms) ++ [m] := by simp [hp]
      obtain ⟨front, hsegments, hfront⟩ := exists_segments_eq hend hconcat
      have hmissing := makeFolder_eq_notFound (hwf.endsKept p) hlimits (ne_nil_of_names_eq hp) hnul
        hsegments hfront (hproper n (by simp)) h hk hfresh
      let above := Path.parent p
      have hstart : t.start above = t.start p := by
        rw [start, start, Path.isAbsolute_parent hup hnul hconcat]
      have hnames : ∀ l ∈ n :: ms, Path.IsProper l := fun l hl =>
        hproper l (List.mem_append_right ns (List.mem_append_left [m] hl))
      have hmade : t.makeFolders above = (.ok (), t.addFolders a (n :: ms)) := by
        refine ih (Path.upName_notMem_segments_parent hup hnul hconcat)
          (Path.nul_notMem_parent hup hnul hconcat)
          (Path.getLast?_segments_parent hup hnul hconcat (by simp))
          (Path.names_parent hup hnul hconcat) (by rwa [hstart]) fun l hl => ?_
        rcases List.mem_append.1 hl with hl | hl
        · exact hproper l (List.mem_append_left _ hl)
        · exact hnames l hl
      -- the directory above is there now
      let t₁ := t.addFolders a (n :: ms)
      have hleads : Leads t₁ k (t₁.start p) (front.filter fun n => n ≠ Path.hereName)
          (a ++ n :: ms) := by
        rw [hfront, start_addFolders]
        exact hwf.leads_addFolders h hnames hfresh
      have hlast : t₁.makeFolder p = .ok (t₁.add (a ++ n :: ms ++ [m]) .folder) :=
        makeFolder_eq_ok (endsKept_of_kept (by rw [removed_addFolders, hwf.kept]) p)
          (by rw [limits_addFolders, hlimits]) (ne_nil_of_names_eq hp) hnul hsegments
          (hproper m (by simp)) hleads hk (hwf.get?_addFolders_below hfresh (List.cons_ne_nil m []))
      have hall : t.makeFolders p = t₁.makeFolderUnlessThere p := by
        rw [makeFolders, Path.parents_eq_cons hup hnul hconcat, makeFoldersFrom,
          if_neg (by simpa using ne_nil_of_names_eq hp), hmissing]
        rw [makeFolders] at hmade
        simp only [ne_eq, not_true_eq_false, if_false, above] at hmade ⊢
        rw [hmade]
      rw [hall, makeFolderUnlessThere, hlast, ← List.cons_append, addFolders_concat]

end Create

end ImageSync.FileTree
