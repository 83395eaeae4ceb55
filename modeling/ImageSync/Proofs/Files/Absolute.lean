import ImageSync.Proofs.Files.Walk

/-!
# Absolute paths

A path is made absolute by its text alone: the names of the working directory are put before its own
and nothing is resolved. So it leads where the path leads, as long as its names do not get too long.

## Main definitions

* `FileTree.origin t p`: the names before those of a path when it is made absolute.

## Main statements

* `FileTree.WellFormed.absolute?_eq_ok`: what becomes of a path that is made absolute.
* `FileTree.WellFormed.leads_absolute`: it leads where the path leads.
-/

namespace ImageSync.FileTree

open Text

variable {t : FileTree} {p q : Path} {k : Nat} {b : Place} {ns : List Name}

/-- The names before those of a path when it is made absolute. -/
def origin (t : FileTree) (p : Path) : List Name := if Path.isAbsolute p then [] else t.home

theorem WellFormed.proper_home (h : t.WellFormed) : ∀ n ∈ t.home, Path.IsProper n :=
  h.proper_of_get? h.get?_home

/-- A path that is not empty has an absolute one, unless it starts in a directory that was
removed. -/
theorem absolute?_cases (t : FileTree) (hne : p ≠ []) :
    (∃ q, t.absolute? p = .ok q ∧ Path.absolute? t.homePath p = .ok q) ∨
      t.absolute? p = .error .notFound ∧ ¬t.StartsKept p := by
  unfold FileTree.absolute? StartsKept
  have hempty : p.isEmpty = false := by simpa using hne
  by_cases hkept : Path.isAbsolute p = true ∨ t.removed = 0
  · obtain ⟨q, hq, -⟩ := Path.absolute?_spec hne (show Path.isAbsolute t.homePath = true from rfl)
    refine .inl ⟨q, ?_, hq⟩
    rw [if_pos (by simpa [hempty] using hkept), hq]
  · refine .inr ⟨?_, hkept⟩
    rw [if_neg (by simpa [hempty] using hkept)]

theorem of_absolute?_eq_ok (h : t.absolute? p = .ok q) : Path.absolute? t.homePath p = .ok q := by
  unfold FileTree.absolute? at h
  split at h
  · exact h
  · cases h

theorem WellFormed.proper_origin (h : t.WellFormed) (p : Path) :
    ∀ n ∈ t.origin p, Path.IsProper n := by
  unfold origin
  split
  · simp
  · exact h.proper_home

/-- A path that is made absolute. -/
theorem WellFormed.absolute?_eq_ok (h : t.WellFormed) (hne : p ≠ []) :
    ∃ q, Path.absolute? t.homePath p = .ok q ∧ Path.isAbsolute q = true ∧
      (Path.nul ∉ p → Path.nul ∉ q) ∧ Path.segments q = t.origin p ++ Path.names p ∧
      Path.names q = t.origin p ++ Path.names p := by
  have hhome : Path.segments t.homePath = t.home := Path.segments_slash_cons h.proper_home
  have hnulhome : Path.nul ∉ t.homePath := by
    have := Path.nul_notMem_joinWith fun n hn => (h.proper_home n hn).nul_notMem
    simpa [homePath] using this
  obtain ⟨q, hq, habsolute, hsegments, hnul⟩ :=
    Path.absolute?_spec hne (show Path.isAbsolute t.homePath = true from rfl)
  have hwhole : Path.segments q = t.origin p ++ Path.names p := by
    rw [hsegments, hhome, origin]
  refine ⟨q, hq, habsolute, hnul hnulhome, hwhole, ?_⟩
  rw [Path.names_eq_segments, hwhole]
  rw [hwhole]
  exact List.forall_mem_append.2 ⟨fun n hn => (h.proper_origin p n hn).ne_here,
    fun n hn => by simpa using (List.mem_filter.1 hn).2⟩

/-- A path without `..` has no `..` when it is made absolute. -/
theorem WellFormed.exists_absolute? (h : t.WellFormed) (hne : p ≠ [])
    (hup : Path.upName ∉ Path.segments p) (hnul : Path.nul ∉ p) :
    ∃ q, Path.absolute? t.homePath p = .ok q ∧ q ≠ [] ∧ Path.isAbsolute q = true ∧
      Path.nul ∉ q ∧ Path.names q = t.origin p ++ Path.names p ∧
      Path.steps q = .root :: (t.origin p ++ Path.names p).map .name := by
  obtain ⟨q, hq, habsolute, hnulq, hsegments, hnames⟩ := h.absolute?_eq_ok hne
  have hupq : Path.upName ∉ Path.segments q := by
    rw [hsegments]
    intro hmem
    rcases List.mem_append.1 hmem with hmem | hmem
    · exact (h.proper_origin p _ hmem).ne_up rfl
    · exact (Path.isProper_of_mem_names hup hnul hmem).ne_up rfl
  refine ⟨q, hq, ?_, habsolute, hnulq hnul, hnames, ?_⟩
  · rintro rfl
    cases habsolute
  · rw [Path.steps_eq hupq, (Path.isAbsolute_iff_lead q).1 habsolute, hnames]
    rfl

/-- A path made absolute leads where the path leads. -/
theorem WellFormed.leads_absolute (h : t.WellFormed) (hleads : Leads t k (t.start p) ns b) :
    Leads t k [] (t.origin p ++ ns) b := by
  unfold start at hleads
  unfold origin
  split
  · rename_i habsolute
    rwa [if_pos habsolute] at hleads
  · rename_i hrelative
    rw [if_neg hrelative] at hleads
    have hhome : Leads t 0 [] t.home t.home :=
      .of_place h h.get?_home fun hmem => (h.proper_home _ hmem).ne_up rfl
    have := hhome.append hleads
    rwa [Nat.zero_add] at this

/-- The same for the system's own answer. -/
theorem WellFormed.find_absolute (h : t.WellFormed) (hlimits : t.limits = .unlimited)
    (hne : p ≠ []) (hup : Path.upName ∉ Path.segments p) (hnul : Path.nul ∉ p)
    (hleads : Leads t k (t.start p) (Path.names p) b) (hk : k ≤ maxLinks) :
    ∃ q, Path.absolute? t.homePath p = .ok q ∧ Path.isAbsolute q = true ∧
      t.find q true = .ok (b, .folder) ∧
      Path.steps q = .root :: (t.origin p ++ Path.names p).map .name := by
  obtain ⟨q, hq, hqne, habsolute, hqnul, hnames, hsteps⟩ := h.exists_absolute? hne hup hnul
  refine ⟨q, hq, habsolute, find_eq_folder (.inl habsolute) hlimits hqne hqnul (k := k) ?_ hk, hsteps⟩
  rw [start, if_pos habsolute, hnames]
  exact h.leads_absolute hleads

end ImageSync.FileTree
