import ImageSync.Files.Path
import ImageSync.Proofs.Text.Split

/-!
# The names of a path

A path without `..` leads, from the root or from the working directory, through its names. How it is
spelled, with repeated slashes, with `.` or with slashes at its end, plays no part.

## Main definitions

* `Path.IsProper`: names that an entry can have.
* `Path.names`: the names of a path.
* `Path.lead`: the step with which a path begins that is no name.

## Main statements

* `Path.steps_eq`: the steps of a path are its lead and its names.
* `Path.steps_ofSteps`: a path that is spelled from steps has these steps.
* `Path.parents_eq_cons`: the paths above a path are the nearest one and those above it.
* `Path.absolute?_spec`: the names of a path that was made absolute.
* `Path.relativeTo?_of_steps`: a path below another as seen from there.
-/

namespace ImageSync.Path

open Text
open Text.Utf8 (Piece)

/-- The character that is in no path. -/
def nul : Piece := .char '\x00'

@[simp] theorem nul_ne_slash : nul ≠ slash := by decide

/-- Names that an entry can have. -/
structure IsProper (n : Name) : Prop where
  ne_nil : n ≠ []
  slash_notMem : slash ∉ n
  nul_notMem : nul ∉ n
  ne_here : n ≠ hereName
  ne_up : n ≠ upName

/-- The names of a path: what stands between its slashes, except `.`. -/
def names (p : Path) : List Name := (segments p).filter fun n => n ≠ hereName

/-! ## Segments -/

@[simp] theorem segments_nil : segments [] = [] := rfl

/-- A slash separates the segments before it from those behind it. -/
theorem segments_append_cons (p q : Path) :
    segments (p ++ slash :: q) = segments p ++ segments q := by
  rw [segments, splitOn_append_cons, List.filter_append, segments, segments]

theorem segments_of_slash_notMem {n : Name} (hne : n ≠ []) (h : slash ∉ n) : segments n = [n] := by
  simp [segments, splitOn_of_notMem h, hne]

theorem slash_notMem_of_mem_segments {p : Path} {n : Name} (h : n ∈ segments p) : slash ∉ n :=
  notMem_of_mem_splitOn (List.mem_filter.1 h).1

theorem ne_nil_of_mem_segments {p : Path} {n : Name} (h : n ∈ segments p) : n ≠ [] := by
  simpa using (List.mem_filter.1 h).2

theorem mem_of_mem_segments {p : Path} {n : Name} {c : Piece} (hn : n ∈ segments p) (hc : c ∈ n) :
    c ∈ p :=
  mem_of_mem_splitOn (List.mem_filter.1 hn).1 hc

/-- An appended name is one more segment, however the path ends. -/
theorem segments_append (p : Path) (n : Name) : segments (append p n) = segments p ++ segments n := by
  unfold append
  split
  · rename_i hend
    rcases List.eq_nil_or_concat p with rfl | ⟨p', c, rfl⟩
    · rfl
    · have hc : c = slash := by simpa [endsInSlash] using hend
      rw [hc, List.concat_eq_append, List.append_assoc, List.singleton_append,
        segments_append_cons, segments_append_cons, segments_nil, List.append_nil]
  · exact segments_append_cons p n

theorem segments_foldl_append (p : Path) {ns : List Name} (h : ∀ n ∈ ns, n ≠ [] ∧ slash ∉ n) :
    segments (ns.foldl append p) = segments p ++ ns := by
  induction ns generalizing p with
  | nil => simp
  | cons n ns ih =>
      have hn := h n List.mem_cons_self
      rw [List.foldl_cons, ih (append p n) fun m hm => h m (List.mem_cons_of_mem n hm),
        segments_append, segments_of_slash_notMem hn.1 hn.2, List.append_assoc]
      rfl

theorem segments_joinWith {ns : List Name} (h : ∀ n ∈ ns, n ≠ [] ∧ slash ∉ n) :
    segments (joinWith slash ns) = ns := by
  cases ns with
  | nil => rfl
  | cons n ns =>
      rw [segments, splitOn_joinWith (by simp) fun m hm => (h m hm).2, List.filter_eq_self]
      intro m hm
      simpa using (h m hm).1

/-! ## Names -/

/-- The names of a path without `..` and NUL are proper. -/
theorem isProper_of_mem_names {p : Path} {n : Name} (hup : upName ∉ segments p) (hnul : nul ∉ p)
    (h : n ∈ names p) : IsProper n := by
  obtain ⟨hsegment, hhere⟩ := List.mem_filter.1 h
  constructor
  case ne_nil => exact ne_nil_of_mem_segments hsegment
  case slash_notMem => exact slash_notMem_of_mem_segments hsegment
  case nul_notMem => exact fun hc => hnul (mem_of_mem_segments hsegment hc)
  case ne_here => simpa using hhere
  case ne_up =>
    rintro rfl
    exact hup hsegment

theorem names_eq_segments {p : Path} (h : ∀ n ∈ segments p, n ≠ hereName) :
    names p = segments p := by
  rw [names, List.filter_eq_self]
  intro n hn
  simpa using h n hn

/-- The step with which a path begins that is no name. -/
def lead (p : Path) : List Step :=
  if isAbsolute p then [.root]
  else if (splitOn slash p).head? = some hereName then [.here]
  else []

/-- The steps of a path without `..`. -/
theorem steps_eq {p : Path} (hup : upName ∉ segments p) :
    steps p = lead p ++ (names p).map .name := by
  have hinner : ∀ ns : List Name, upName ∉ ns →
      ns.filterMap Step.ofSegment = (ns.filter fun n => n ≠ hereName).map .name := by
    intro ns hns
    induction ns with
    | nil => rfl
    | cons n ns ih =>
        rw [List.mem_cons, not_or] at hns
        have hn : n ≠ upName := Ne.symm hns.1
        by_cases hhere : n = hereName
        · simp [Step.ofSegment, hhere, ih hns.2]
        · simp [Step.ofSegment, hhere, hn, ih hns.2]
  unfold steps lead names
  rw [hinner _ hup]
  split
  · rfl
  · split <;> rfl

/-! ## Paths that are spelled from steps -/

/-- The steps with which a path can begin that are no names. -/
def IsLead (ss : List Step) : Prop := ss = [] ∨ ss = [.root] ∨ ss = [.here]

theorem isLead_lead (p : Path) : IsLead (lead p) := by
  unfold lead
  split
  · exact .inr (.inl rfl)
  · split
    · exact .inr (.inr rfl)
    · exact .inl rfl

section Spelled

variable {ss : List Step} {ns : List Name}

theorem map_text_map_name (ns : List Name) : (ns.map Step.name).map Step.text = ns := by
  rw [List.map_map]
  exact List.map_id ns

theorem ofSteps_names (ns : List Name) : ofSteps (ns.map .name) = joinWith slash ns := by
  cases ns with
  | nil => rfl
  | cons n ns =>
      change joinWith slash (((n :: ns).map Step.name).map Step.text) = _
      rw [map_text_map_name]

theorem ofSteps_root (ns : List Name) :
    ofSteps (.root :: ns.map .name) = slash :: joinWith slash ns := by
  rw [ofSteps, map_text_map_name]

theorem ofSteps_here (ns : List Name) :
    ofSteps (.here :: ns.map .name) = joinWith slash (hereName :: ns) := by
  change joinWith slash (hereName :: (ns.map Step.name).map Step.text) = _
  rw [map_text_map_name]

theorem splitOn_joinWith_head {ns : List Name} (h : ∀ n ∈ ns, IsProper n) :
    (splitOn slash (joinWith slash ns)).head? ≠ some hereName := by
  cases ns with
  | nil => decide
  | cons n ns =>
      rw [splitOn_joinWith (by simp) fun m hm => (h m hm).slash_notMem]
      simpa using (h n List.mem_cons_self).ne_here

theorem isAbsolute_joinWith {ns : List Name} (h : ∀ n ∈ ns, n ≠ [] ∧ slash ∉ n) :
    isAbsolute (joinWith slash ns) = false := by
  cases ns with
  | nil => rfl
  | cons n ns =>
      obtain ⟨hne, hslash⟩ := h n List.mem_cons_self
      cases n with
      | nil => exact absurd rfl hne
      | cons c n =>
          have hc : c ≠ slash := fun hc => hslash (by simp [hc])
          cases ns <;> simpa [joinWith, isAbsolute] using hc

/-- A path that is spelled from a lead and proper names. -/
theorem spelled (hss : IsLead ss) (hns : ∀ n ∈ ns, IsProper n) :
    lead (ofSteps (ss ++ ns.map .name)) = ss ∧
      segments (ofSteps (ss ++ ns.map .name)) = (if ss = [.here] then [hereName] else []) ++ ns := by
  have hplain : ∀ n ∈ ns, n ≠ [] ∧ slash ∉ n := fun n hn =>
    ⟨(hns n hn).ne_nil, (hns n hn).slash_notMem⟩
  rcases hss with rfl | rfl | rfl
  · rw [List.nil_append, ofSteps_names]
    exact ⟨by simp [lead, isAbsolute_joinWith hplain, splitOn_joinWith_head hns],
      by simp [segments_joinWith hplain]⟩
  · rw [List.singleton_append, ofSteps_root]
    refine ⟨rfl, ?_⟩
    have := segments_append_cons [] (joinWith slash ns)
    simpa [segments_joinWith hplain] using this
  · have hhere : ∀ n ∈ hereName :: ns, n ≠ [] ∧ slash ∉ n := by
      intro n hn
      rcases List.mem_cons.1 hn with rfl | hn
      · decide
      · exact hplain n hn
    rw [List.singleton_append, ofSteps_here]
    have hhead : (splitOn slash (joinWith slash (hereName :: ns))).head? = some hereName := by
      rw [splitOn_joinWith (by simp) fun m hm => (hhere m hm).2]
      rfl
    exact ⟨by simp [lead, isAbsolute_joinWith hhere, hhead], by simp [segments_joinWith hhere]⟩

theorem names_ofSteps (hss : IsLead ss) (hns : ∀ n ∈ ns, IsProper n) :
    names (ofSteps (ss ++ ns.map .name)) = ns := by
  rw [names, (spelled hss hns).2, List.filter_append]
  have hall : (ns.filter fun n => n ≠ hereName) = ns :=
    List.filter_eq_self.2 fun n hn => by simpa using (hns n hn).ne_here
  rw [hall]
  split <;> simp

theorem upName_notMem_segments_ofSteps (hss : IsLead ss) (hns : ∀ n ∈ ns, IsProper n) :
    upName ∉ segments (ofSteps (ss ++ ns.map .name)) := by
  rw [(spelled hss hns).2]
  intro h
  rcases List.mem_append.1 h with h | h
  · split at h
    · exact absurd h (by decide)
    · cases h
  · exact (hns _ h).ne_up rfl

/-- A path that is spelled from steps has these steps. -/
theorem steps_ofSteps (hss : IsLead ss) (hns : ∀ n ∈ ns, IsProper n) :
    steps (ofSteps (ss ++ ns.map .name)) = ss ++ ns.map .name := by
  rw [steps_eq (upName_notMem_segments_ofSteps hss hns), (spelled hss hns).1,
    names_ofSteps hss hns]

end Spelled

/-! ## The paths above a path -/

/-- The paths above a path with these steps. -/
def above (ss : List Step) : List Path :=
  let shortest := if ss.head? = some .root then 1 else 0
  ((List.range ss.length).filter fun n => shortest ≤ n).reverse.map fun n => ofSteps (ss.take n)

theorem parents_eq_above (p : Path) : parents p = above (steps p) := rfl

theorem above_concat {ss : List Step} {x : Step} (hx : x ≠ .root) :
    above (ss ++ [x]) = ofSteps ss :: above ss := by
  let shortest := if ss.head? = some .root then 1 else 0
  have hshortest : (if (ss ++ [x]).head? = some .root then 1 else 0) = shortest := by
    cases ss with
    | nil => simp [shortest, hx]
    | cons s ss => rfl
  have hle : shortest ≤ ss.length := by
    cases ss with
    | nil => exact Nat.le_refl 0
    | cons s ss =>
        have : shortest ≤ 1 := by
          simp only [shortest]
          split <;> omega
        exact Nat.le_trans this (by simp)
  have htake : ((List.range ss.length).filter fun n => shortest ≤ n).reverse.map
        (fun n => ofSteps ((ss ++ [x]).take n)) =
      ((List.range ss.length).filter fun n => shortest ≤ n).reverse.map
        fun n => ofSteps (ss.take n) := by
    refine List.map_congr_left fun n hn => ?_
    have hlt : n < ss.length := by
      have := List.mem_filter.1 (List.mem_reverse.1 hn)
      exact List.mem_range.1 this.1
    rw [List.take_append_of_le_length (Nat.le_of_lt hlt)]
  unfold above
  simp only [hshortest, List.length_append, List.length_singleton, List.range_succ,
    List.filter_append, List.filter_cons, List.filter_nil, hle, decide_true, if_true,
    List.reverse_append, List.reverse_singleton, List.singleton_append, List.map_cons,
    List.take_left']
  exact congrArg _ htake

/-- The nearest path above a path. -/
def parent (p : Path) : Path := ofSteps (lead p ++ (names p).dropLast.map .name)

section Parent

variable {p : Path} {ns : List Name} {n : Name}

theorem isProper_of_names_eq (hup : upName ∉ segments p) (hnul : nul ∉ p)
    (hp : names p = ns ++ [n]) : ∀ m ∈ ns, IsProper m := by
  intro m hm
  refine isProper_of_mem_names hup hnul ?_
  rw [hp]
  exact List.mem_append_left [n] hm

theorem names_parent (hup : upName ∉ segments p) (hnul : nul ∉ p) (hp : names p = ns ++ [n]) :
    names (parent p) = ns := by
  have hproper := isProper_of_names_eq hup hnul hp
  rw [parent, hp, List.dropLast_concat, names_ofSteps (isLead_lead p) hproper]

theorem lead_parent (hup : upName ∉ segments p) (hnul : nul ∉ p) (hp : names p = ns ++ [n]) :
    lead (parent p) = lead p := by
  have hproper := isProper_of_names_eq hup hnul hp
  rw [parent, hp, List.dropLast_concat, (spelled (isLead_lead p) hproper).1]

theorem isAbsolute_iff_lead (p : Path) : isAbsolute p = true ↔ lead p = [.root] := by
  unfold lead
  split
  · simp [*]
  · split <;> simp [*]

theorem isAbsolute_parent (hup : upName ∉ segments p) (hnul : nul ∉ p) (hp : names p = ns ++ [n]) :
    isAbsolute (parent p) = isAbsolute p := by
  rw [Bool.eq_iff_iff, isAbsolute_iff_lead, isAbsolute_iff_lead, lead_parent hup hnul hp]

theorem getLast?_segments_parent (hup : upName ∉ segments p) (hnul : nul ∉ p)
    (hp : names p = ns ++ [n]) (hns : ns ≠ []) :
    (segments (parent p)).getLast? = (names (parent p)).getLast? := by
  have hproper := isProper_of_names_eq hup hnul hp
  rw [names_parent hup hnul hp, parent, hp, List.dropLast_concat,
    (spelled (isLead_lead p) hproper).2, List.getLast?_append]
  cases hlast : ns.getLast? with
  | none => exact absurd (List.getLast?_eq_none_iff.1 hlast) hns
  | some l => rfl

theorem upName_notMem_segments_parent (hup : upName ∉ segments p) (hnul : nul ∉ p)
    (hp : names p = ns ++ [n]) : upName ∉ segments (parent p) := by
  have hproper := isProper_of_names_eq hup hnul hp
  rw [parent, hp, List.dropLast_concat]
  exact upName_notMem_segments_ofSteps (isLead_lead p) hproper

/-- The paths above a path are the nearest one and those above it. -/
theorem parents_eq_cons (hup : upName ∉ segments p) (hnul : nul ∉ p) (hp : names p = ns ++ [n]) :
    parents p = parent p :: parents (parent p) := by
  have hproper := isProper_of_names_eq hup hnul hp
  have hparent : parent p = ofSteps (lead p ++ ns.map .name) := by
    rw [parent, hp, List.dropLast_concat]
  rw [parents_eq_above, parents_eq_above, steps_eq hup, hp, List.map_append, List.map_singleton,
    ← List.append_assoc, above_concat (by simp), hparent, steps_ofSteps (isLead_lead p) hproper]

end Parent

/-! ## Appended names -/

theorem append_ne_nil {p : Path} {n : Name} (hn : n ≠ []) : append p n ≠ [] := by
  unfold append
  split <;> simp [hn]

theorem isAbsolute_append_name {p : Path} {n : Name} (hp : p ≠ []) :
    isAbsolute (append p n) = isAbsolute p := by
  obtain ⟨c, p, rfl⟩ := List.exists_cons_of_ne_nil hp
  unfold append
  split <;> rfl

theorem names_append_name {p : Path} {n : Name} (hn : IsProper n) :
    names (append p n) = names p ++ [n] := by
  rw [names, segments_append, segments_of_slash_notMem hn.ne_nil hn.slash_notMem,
    List.filter_append, names]
  simp [hn.ne_here]

theorem endsInSlash_append_name {p : Path} {n : Name} (hn : IsProper n) :
    endsInSlash (append p n) = false := by
  obtain ⟨front, c, rfl⟩ := (List.eq_nil_or_concat n).resolve_left hn.ne_nil
  have hc : c ≠ slash := by
    rintro rfl
    exact hn.slash_notMem (by simp)
  have hend : ∀ q : Path, endsInSlash (q ++ front.concat c) = false := fun q => by
    rw [endsInSlash, List.concat_eq_append, ← List.append_assoc, List.getLast?_concat]
    simpa using hc
  unfold append
  split
  · exact hend p
  · rw [List.append_cons]
    exact hend _

theorem nul_notMem_append {p : Path} {n : Name} (hp : nul ∉ p) (hn : nul ∉ n) :
    nul ∉ append p n := by
  unfold append
  split <;> simp [hp, hn]

/-! ## Absolute and relative paths -/

theorem isAbsolute_append {p : Path} (h : isAbsolute p = true) (q : Path) :
    isAbsolute (p ++ q) = true := by
  cases p with
  | nil => cases h
  | cons c p => exact h

theorem isAbsolute_foldl_append {p : Path} (h : isAbsolute p = true) (ns : List Name) :
    isAbsolute (ns.foldl append p) = true := by
  induction ns generalizing p with
  | nil => exact h
  | cons n ns ih =>
      refine ih ?_
      unfold append
      split
      · exact isAbsolute_append h n
      · exact isAbsolute_append h _

theorem filterMap_ofSegment {ns : List Name} (h : ∀ n ∈ ns, IsProper n) :
    ns.filterMap Step.ofSegment = ns.map .name := by
  induction ns with
  | nil => rfl
  | cons n ns ih =>
      have hn := h n List.mem_cons_self
      have hrest := ih fun m hm => h m (List.mem_cons_of_mem n hm)
      simp [Step.ofSegment, hn.ne_here, hn.ne_up, hrest]

/-- Names appended to an absolute path are more steps of it. -/
theorem steps_foldl_append {p : Path} (h : isAbsolute p = true) {ns : List Name}
    (hns : ∀ n ∈ ns, IsProper n) : steps (ns.foldl append p) = steps p ++ ns.map .name := by
  have hsegments : segments (ns.foldl append p) = segments p ++ ns :=
    segments_foldl_append p fun n hn => ⟨(hns n hn).ne_nil, (hns n hn).slash_notMem⟩
  unfold steps
  rw [isAbsolute_foldl_append h, h, hsegments, List.filterMap_append, filterMap_ofSegment hns]
  rfl

theorem nul_notMem_foldl_append {p : Path} (h : nul ∉ p) {ns : List Name}
    (hns : ∀ n ∈ ns, nul ∉ n) : nul ∉ ns.foldl append p := by
  induction ns generalizing p with
  | nil => exact h
  | cons n ns ih =>
      exact ih (nul_notMem_append h (hns n List.mem_cons_self)) fun m hm =>
        hns m (List.mem_cons_of_mem n hm)

/-- What making a path absolute gives. -/
theorem absolute?_spec {home p : Path} (hp : p ≠ []) (hhome : isAbsolute home = true) :
    ∃ q, absolute? home p = .ok q ∧ isAbsolute q = true ∧
      segments q = (if isAbsolute p then [] else segments home) ++ names p ∧
      (nul ∉ home → nul ∉ p → nul ∉ q) := by
  let start :=
    if isAbsolute p then
      if p.take 2 = [slash, slash] ∧ (p.drop 2).head? ≠ some slash then [slash, slash] else [slash]
    else home
  let whole := (names p).foldl append start
  have hstart : isAbsolute start = true ∧
      segments start = (if isAbsolute p then [] else segments home) ∧
      (nul ∉ home → nul ∉ start) := by
    simp only [start]
    split
    · split <;> exact ⟨by decide, by decide, fun _ => by decide⟩
    · exact ⟨hhome, rfl, id⟩
  have hnames : ∀ n ∈ names p, n ≠ [] ∧ slash ∉ n := by
    intro n hn
    have hsegment := (List.mem_filter.1 hn).1
    exact ⟨ne_nil_of_mem_segments hsegment, slash_notMem_of_mem_segments hsegment⟩
  have hwhole : isAbsolute whole = true := isAbsolute_foldl_append hstart.1 (names p)
  have hsegments : segments whole = (if isAbsolute p then [] else segments home) ++ names p := by
    rw [← hstart.2.1]
    exact segments_foldl_append start hnames
  have hnul : nul ∉ home → nul ∉ p → nul ∉ whole := by
    intro hhome hp
    refine nul_notMem_foldl_append (hstart.2.2 hhome) fun n hn hc => hp ?_
    exact mem_of_mem_segments (List.mem_filter.1 hn).1 hc
  have habsolute : absolute? home p =
      .ok (if endsInSlash p && !endsInSlash whole then whole ++ [slash] else whole) := by
    unfold absolute?
    rw [if_neg (by simpa using hp)]
    rfl
  refine ⟨_, habsolute, ?_⟩
  split
  · refine ⟨isAbsolute_append hwhole _, ?_, fun hhome hp => ?_⟩
    · have := segments_append_cons whole []
      rw [this, segments_nil, List.append_nil, hsegments]
    · simp [hnul hhome hp]
  · exact ⟨hwhole, hsegments, hnul⟩

/-- A path below another as seen from there. -/
theorem relativeTo?_of_steps {base p : Path} {ns : List Name} (hne : steps base ≠ [])
    (hp : steps p = steps base ++ ns.map .name) : relativeTo? base p = some (joinWith slash ns) := by
  have hpre : (steps base).isPrefixOf (steps p) = true := by
    rw [hp]
    exact List.isPrefixOf_iff_prefix.2 (List.prefix_append _ _)
  unfold relativeTo?
  rw [if_neg (by simpa using hne), if_pos hpre, hp, List.drop_left, ofSteps_names]

/-! ## The working directory -/

theorem nul_notMem_joinWith {ns : List Name} (h : ∀ n ∈ ns, nul ∉ n) : nul ∉ joinWith slash ns := by
  induction ns with
  | nil => simp [joinWith]
  | cons n ns ih =>
      have hn := h n List.mem_cons_self
      have hns := ih fun m hm => h m (List.mem_cons_of_mem n hm)
      cases ns with
      | nil => exact hn
      | cons m ns =>
          rw [joinWith]
          · simp [hn, hns]
          · simp

theorem segments_slash_cons {ns : List Name} (h : ∀ n ∈ ns, IsProper n) :
    segments (slash :: joinWith slash ns) = ns := by
  have hplain : ∀ n ∈ ns, n ≠ [] ∧ slash ∉ n := fun n hn =>
    ⟨(h n hn).ne_nil, (h n hn).slash_notMem⟩
  have := segments_append_cons [] (joinWith slash ns)
  simpa [segments_joinWith hplain] using this

theorem nul_notMem_parent {p : Path} {ns : List Name} {n : Name} (hup : upName ∉ segments p)
    (hnul : nul ∉ p) (hp : names p = ns ++ [n]) : nul ∉ parent p := by
  have hproper : ∀ m ∈ ns, nul ∉ m := fun m hm =>
    (isProper_of_names_eq hup hnul hp m hm).nul_notMem
  rw [parent, hp, List.dropLast_concat]
  rcases isLead_lead p with h | h | h
  · rw [h, List.nil_append, ofSteps_names]
    exact nul_notMem_joinWith hproper
  · rw [h, List.singleton_append, ofSteps_root]
    simpa using nul_notMem_joinWith hproper
  · rw [h, List.singleton_append, ofSteps_here]
    refine nul_notMem_joinWith fun m hm => ?_
    rcases List.mem_cons.1 hm with rfl | hm
    · decide
    · exact hproper m hm

end ImageSync.Path
