import ImageSync.Proofs.Files.Create

/-!
# Where directories can be created

A directory is created behind names that lead to a directory, where nothing lies. Here are the
consequences for a path and those above it, whatever becomes of the creation: also where names are
too long, where links lead astray and where the path has steps `..`.

## Main definitions

* `FileTree.Climbs t p`: every `..` of the path comes behind a way to a directory.

## Main statements

* `FileTree.Leads.unique`: names lead to one directory at most.
* `FileTree.freshPlace_eq_ok`: where a directory is created.
* `FileTree.makeFoldersFrom_induction`: what each new directory preserves, creating several does.
* `FileTree.exists_stops`: where the way to a path that does not exist stops.
-/

namespace ImageSync.Path

open Text

/-! ## The paths above a path -/

theorem map_text_filterMap_ofSegment (l : List Name) :
    (l.filterMap Step.ofSegment).map Step.text = l.filter fun n => n ≠ hereName := by
  induction l with
  | nil => rfl
  | cons n l ih =>
      by_cases hhere : n = hereName
      · simpa [Step.ofSegment, hhere] using ih
      · by_cases hup : n = upName
        · simpa [Step.ofSegment, hup, Step.text, show upName ≠ hereName by decide] using ih
        · simpa [Step.ofSegment, hhere, hup] using ih

theorem root_notMem_filterMap_ofSegment (l : List Name) :
    Step.root ∉ l.filterMap Step.ofSegment := by
  intro h
  obtain ⟨n, -, hn⟩ := List.mem_filterMap.1 h
  unfold Step.ofSegment at hn
  split at hn
  · cases hn
  · split at hn <;> cases hn

theorem ofSteps_of_ne_root {ss : List Step} (h : Step.root ∉ ss) :
    ofSteps ss = joinWith slash (ss.map Step.text) := by
  cases ss with
  | nil => rfl
  | cons s ss =>
      cases s with
      | root => exact absurd List.mem_cons_self h
      | _ => rfl

/-- A path that is spelled from a lead and steps without `.`. -/
theorem spelled_steps {lead inner : List Step} (hlead : IsLead lead) (hroot : Step.root ∉ inner)
    (hinner : ∀ n ∈ inner.map Step.text, (n ≠ [] ∧ slash ∉ n) ∧ n ≠ hereName) :
    names (ofSteps (lead ++ inner)) = inner.map Step.text ∧
      (isAbsolute (ofSteps (lead ++ inner)) = true ↔ lead = [.root]) := by
  have hplain : ∀ n ∈ inner.map Step.text, n ≠ [] ∧ slash ∉ n := fun n hn => (hinner n hn).1
  have hkept : (inner.map Step.text).filter (fun n => n ≠ hereName) = inner.map Step.text :=
    List.filter_eq_self.2 fun n hn => by simpa using (hinner n hn).2
  rcases hlead with rfl | rfl | rfl
  · rw [List.nil_append, ofSteps_of_ne_root hroot, names, segments_joinWith hplain, hkept,
      isAbsolute_joinWith hplain]
    simp
  · have hsegments := segments_append_cons [] (joinWith slash (inner.map Step.text))
    rw [segments_nil, List.nil_append, List.nil_append, segments_joinWith hplain] at hsegments
    rw [List.singleton_append, ofSteps, names, hsegments, hkept]
    simp [isAbsolute]
  · have hhere : ∀ n ∈ hereName :: inner.map Step.text, n ≠ [] ∧ slash ∉ n :=
      List.forall_mem_cons.2 ⟨by decide, hplain⟩
    have htext : ([Step.here] ++ inner).map Step.text = hereName :: inner.map Step.text := rfl
    rw [ofSteps_of_ne_root (by simpa using hroot), htext, names, segments_joinWith hhere,
      isAbsolute_joinWith hhere, List.filter_cons_of_neg (by simp), hkept]
    simp

/-- The paths above a path have the first of its names, never the last, and start where it starts. -/
theorem names_of_mem_parents {p q : Path} (h : q ∈ parents p) :
    names q <+: (names p).dropLast ∧ (q = [] ∨ isAbsolute q = isAbsolute p) := by
  let inner := (segments p).filterMap Step.ofSegment
  have htext : inner.map Step.text = names p := map_text_filterMap_ofSegment (segments p)
  have hsteps : steps p = lead p ++ inner := by
    unfold steps lead
    split
    · rfl
    · split <;> rfl
  have hplain : ∀ n ∈ names p, (n ≠ [] ∧ slash ∉ n) ∧ n ≠ hereName := by
    intro n hn
    obtain ⟨hsegment, hhere⟩ := List.mem_filter.1 hn
    exact ⟨⟨ne_nil_of_mem_segments hsegment, slash_notMem_of_mem_segments hsegment⟩,
      by simpa using hhere⟩
  have hspelled : ∀ k lead, k < inner.length → IsLead lead →
      names (ofSteps (lead ++ inner.take k)) <+: (names p).dropLast ∧
        (isAbsolute (ofSteps (lead ++ inner.take k)) = true ↔ lead = [.root]) := by
    intro k lead hk hlead
    have hpre : (inner.take k).map Step.text <+: (names p).dropLast := by
      rw [← htext, List.map_take, List.dropLast_eq_take]
      exact List.take_prefix_take_left (by rw [List.length_map]; omega)
    obtain ⟨hnames, habsolute⟩ := spelled_steps hlead
      (fun hmem => root_notMem_filterMap_ofSegment (segments p) (List.mem_of_mem_take hmem))
      (fun n hn => hplain n ((List.dropLast_prefix _).subset (hpre.subset hn)))
    exact ⟨hnames ▸ hpre, habsolute⟩
  rw [parents] at h
  obtain ⟨k, hk, rfl⟩ := List.mem_map.1 h
  obtain ⟨hrange, hk⟩ := List.mem_filter.1 (List.mem_reverse.1 hk)
  have hlength := List.mem_range.1 hrange
  rw [hsteps] at hk hlength ⊢
  -- a lead is cut off only together with all names, and a root never is
  rcases isLead_lead p with hlead | hlead | hlead
  · rw [hlead] at hlength
    obtain ⟨hnames, habsolute⟩ := hspelled k [] hlength (.inl rfl)
    rw [hlead]
    refine ⟨hnames, .inr ?_⟩
    rw [Bool.eq_iff_iff, isAbsolute_iff_lead p, hlead]
    exact habsolute
  · obtain ⟨k, rfl⟩ : ∃ k', k = k' + 1 := by
      have hpos : 1 ≤ k := by simpa [hlead] using hk
      exact ⟨k - 1, by omega⟩
    rw [hlead] at hlength
    obtain ⟨hnames, habsolute⟩ := hspelled k [.root] (Nat.lt_of_succ_lt_succ hlength) (.inr (.inl rfl))
    rw [hlead]
    refine ⟨hnames, .inr ?_⟩
    rw [Bool.eq_iff_iff, isAbsolute_iff_lead p, hlead]
    exact habsolute
  · rw [hlead] at hlength ⊢
    cases k with
    | zero => exact ⟨List.nil_prefix, .inl rfl⟩
    | succ k =>
        obtain ⟨hnames, habsolute⟩ :=
          hspelled k [.here] (Nat.lt_of_succ_lt_succ hlength) (.inr (.inr rfl))
        refine ⟨hnames, .inr ?_⟩
        rw [Bool.eq_iff_iff, isAbsolute_iff_lead p, hlead]
        exact habsolute

end ImageSync.Path

namespace ImageSync.FileTree

open Text

variable {t t' : FileTree} {p q : Path} {a b c place : Place} {k k' : Nat} {n m : Name}
  {ns ms xs : List Name}

/-! ## Ways -/

namespace Leads

/-- Names lead to one directory at most. -/
theorem unique (h : Leads t k a ns b) (h' : Leads t k' a ns c) : b = c := by
  induction h generalizing k' with
  | done a => cases h' with
    | done => rfl
  | up _ ih => cases h' with
    | up h' => exact ih h'
    | folder hn => exact absurd rfl hn
    | link hn => exact absurd rfl hn
  | folder hn hget _ ih => cases h' with
    | up => exact absurd rfl hn
    | folder _ _ h' => exact ih h'
    | link _ hget' =>
        rw [hget] at hget'
        cases hget'
  | link hn hget _ ih => cases h' with
    | up => exact absurd rfl hn
    | folder _ hget' =>
        rw [hget] at hget'
        cases hget'
    | link _ hget' h' =>
        rw [hget] at hget'
        cases hget'
        exact ih h'

/-- The first of some names lead to a directory from which the others lead on. -/
theorem of_append (h : Leads t k a (ns ++ ms) b) :
    ∃ k₁ k₂ c, k₁ + k₂ = k ∧ Leads t k₁ a ns c ∧ Leads t k₂ c ms b := by
  generalize hall : ns ++ ms = all at h
  induction h generalizing ns with
  | done a =>
      obtain ⟨rfl, rfl⟩ := List.append_eq_nil_iff.1 hall
      exact ⟨0, 0, a, rfl, .done a, .done a⟩
  | @up k a b all h ih => cases ns with
    | nil =>
        rw [List.nil_append] at hall
        exact ⟨0, k, a, by omega, .done a, hall ▸ .up h⟩
    | cons n ns =>
        obtain ⟨rfl, hrest⟩ := List.cons.inj hall
        obtain ⟨k₁, k₂, c, hk, hfirst, hsecond⟩ := ih hrest
        exact ⟨k₁, k₂, c, hk, .up hfirst, hsecond⟩
  | @folder k a b n all hn hget h ih => cases ns with
    | nil =>
        rw [List.nil_append] at hall
        exact ⟨0, k, a, by omega, .done a, hall ▸ .folder hn hget h⟩
    | cons m ns =>
        obtain ⟨rfl, hrest⟩ := List.cons.inj hall
        obtain ⟨k₁, k₂, c, hk, hfirst, hsecond⟩ := ih hrest
        exact ⟨k₁, k₂, c, hk, .folder hn hget hfirst, hsecond⟩
  | @link k a b n all target hn hget h ih => cases ns with
    | nil =>
        rw [List.nil_append] at hall
        exact ⟨0, k + 1, a, by omega, .done a, hall ▸ .link hn hget h⟩
    | cons m ns =>
        obtain ⟨rfl, hrest⟩ := List.cons.inj hall
        have hbeyond : (Path.names target ++ ns) ++ ms = Path.names target ++ all := by
          rw [List.append_assoc]
          exact congrArg _ hrest
        obtain ⟨k₁, k₂, c, hk, hfirst, hsecond⟩ := ih hbeyond
        exact ⟨k₁ + 1, k₂, c, by omega, .link hn hget hfirst, hsecond⟩

/-- The names behind a way lead on from where it leads to. -/
theorem of_leads_append (h : Leads t k a ns b) (h' : Leads t k' a (ns ++ ms) c) :
    ∃ k'' ≤ k', Leads t k'' b ms c := by
  obtain ⟨k₁, k₂, b', hk, hfirst, hsecond⟩ := h'.of_append
  rw [h.unique hfirst]
  exact ⟨k₂, by omega, hsecond⟩

theorem get?_ne_none (h : Leads t k a (n :: ns) b) (hn : n ≠ Path.upName) :
    t.get? (a ++ [n]) ≠ none := by
  cases h with
  | up => exact absurd rfl hn
  | folder _ hget => simp [hget]
  | link _ hget => simp [hget]

/-- Names that name directories only lead through them. -/
theorem eq_append (h : Leads t k a ns b) (hup : Path.upName ∉ ns)
    (hfolder : ∀ q, q ≠ [] → q <+: ns → ∀ e, t.get? (a ++ q) = some e → e = .folder) :
    b = a ++ ns := by
  induction ns generalizing k a with
  | nil => cases h with
    | done => simp
  | cons n ns ih =>
      rw [List.mem_cons, not_or] at hup
      have hn : ∀ e, t.get? (a ++ [n]) = some e → e = .folder :=
        hfolder [n] (by simp) ⟨ns, rfl⟩
      cases h with
      | up => exact absurd rfl hup.1
      | folder _ hget h =>
          rw [ih h hup.2 fun q hq hpre e he => ?_]
          · simp
          · refine hfolder (n :: q) (by simp) ((List.prefix_cons_inj n).2 hpre) e ?_
            simpa using he
      | link _ hget => cases hn _ hget

end Leads

/-! ## What a path leads to -/

/-- What a path leads to lies behind its last name, to which the others lead. -/
theorem leads_of_find_ok {e : Entry} (h : t.find p true = .ok (b, e))
    (hp : Path.names p = ns ++ [n]) (hn : n ≠ Path.upName) :
    ∃ k ≤ maxLinks, ∃ c, Leads t k (t.start p) ns c ∧ t.get? (c ++ [n]) ≠ none := by
  obtain ⟨-, hwalk⟩ := find_eq_ok_iff.1 h
  obtain ⟨front, back, hsegments, hfront, hback⟩ := List.filter_eq_append_iff.1 hp
  obtain ⟨dots, rest, rfl, hdots, hhere, hrest⟩ := List.filter_eq_cons_iff.1 hback
  obtain ⟨k, hk, hleads⟩ : ∃ k ≤ maxLinks, ∃ c, Leads t k (t.start p) ns c := by
    obtain ⟨k, hk, ⟨c, -, hleads⟩ | ⟨ms, m, c, hms, hleads, -⟩⟩ := leads_of_walk_ok hwalk
    · rw [← Path.names, hp] at hleads
      obtain ⟨k₁, k₂, d, hsum, hfirst, -⟩ := hleads.of_append
      exact ⟨k₁, by omega, d, hfirst⟩
    · rw [← Path.names, hp] at hms
      rw [(List.append_inj' hms rfl).1]
      exact ⟨k, hk, c, hleads⟩
  obtain ⟨c, hleads⟩ := hleads
  refine ⟨k, hk, c, hleads, fun hnone => ?_⟩
  rw [hsegments] at hwalk
  rcases hleads.walk_or hfront hk (Path.endsInSlash p) (dots ++ n :: rest) with
    ⟨m, -, hlong⟩ | ⟨needed, hon⟩
  · rw [hlong] at hwalk
    cases hwalk
  · have hhere : n ≠ Path.hereName := by simpa using hhere
    rw [hon, walk_skip t true needed _ c (by simpa using hdots)] at hwalk
    by_cases hname : t.exceedsName n = true
    · rw [walk_tooLong hhere hn hname] at hwalk
      cases hwalk
    · rw [walk_none hhere hn (by simpa using hname) hnone] at hwalk
      split at hwalk <;> cases hwalk

/-- What a path leads to, where its names go on behind some of them: the last of these names stands
behind the others, and something lies there. -/
theorem leads_of_find_behind {e : Entry} (h : t.find p true = .ok (b, e))
    (hp : Path.names p = xs ++ ms) (hms : ms ≠ []) (hup : Path.upName ∉ ms) :
    ∃ front m, ms = front ++ [m] ∧ ∃ k ≤ maxLinks, ∃ c, Leads t k (t.start p) (xs ++ front) c ∧
      t.get? (c ++ [m]) ≠ none := by
  obtain ⟨front, m, rfl⟩ : ∃ front m, ms = front ++ [m] := by
    rcases List.eq_nil_or_concat ms with hnil | ⟨front, m, hconcat⟩
    · exact absurd hnil hms
    · exact ⟨front, m, by rw [hconcat, List.concat_eq_append]⟩
  have hm : m ≠ Path.upName := by
    rintro rfl
    exact hup (by simp)
  rw [← List.append_assoc] at hp
  exact ⟨front, m, rfl, leads_of_find_ok h hp hm⟩

/-- What is checked before a directory is created. -/
theorem walk_of_freshPlace (h : t.freshPlace p = .ok place) :
    t.checkText p = .ok () ∧ ∃ front n b, Path.segments p = front ++ [n] ∧
      t.walk true true maxLinks (t.start p) front = .ok (.found b .folder) ∧ n ≠ Path.hereName ∧
      n ≠ Path.upName ∧ t.exceedsName n = false ∧ place = b ++ [n] ∧ t.get? place = none := by
  unfold freshPlace at h
  split at h
  · cases h
  · rename_i hcheck
    refine ⟨hcheck, ?_⟩
    dsimp only at h
    split at h
    · cases h
    · rename_i n hlast
      obtain ⟨front, hsegments⟩ := List.getLast?_eq_some_iff.1 hlast
      rw [hsegments, List.dropLast_concat] at h
      split at h
      · cases h
      · cases h
      · rename_i b e hwalk
        split_ifs at h with hdots hname hthere
        cases h
        rw [not_or] at hdots
        -- on the way to a directory only a directory is found
        obtain ⟨-, -, ⟨c, hfound, -⟩ | ⟨-, -, -, -, -, -, hmissing⟩⟩ := leads_of_walk_ok hwalk
        · cases hfound
          exact ⟨front, n, b, hsegments, hwalk, hdots.1, hdots.2, by simpa using hname, rfl,
            by simpa using hthere⟩
        · obtain ⟨c, m, hlost⟩ := hmissing rfl
          cases hlost

/-- A directory is created behind names that lead to a directory, where nothing lies. -/
theorem freshPlace_eq_ok (h : t.freshPlace p = .ok place) :
    ∃ ns n b, ∃ k ≤ maxLinks, Path.names p = ns ++ [n] ∧ Path.IsProper n ∧
      Leads t k (t.start p) ns b ∧ place = b ++ [n] ∧ t.get? place = none := by
  obtain ⟨hcheck, front, n, b, hsegments, hwalk, hhere, hup, -, hplace, hget⟩ :=
    walk_of_freshPlace h
  have hmem : n ∈ Path.segments p := by simp [hsegments]
  have hn : Path.IsProper n := ⟨Path.ne_nil_of_mem_segments hmem,
    Path.slash_notMem_of_mem_segments hmem,
    fun hc => (of_checkText hcheck).2 (Path.mem_of_mem_segments hmem hc), hhere, hup⟩
  have hnames : Path.names p = (front.filter fun n => n ≠ Path.hereName) ++ [n] := by
    rw [Path.names, hsegments, List.filter_append, List.filter_cons_of_pos (by simpa using hhere),
      List.filter_nil]
  obtain ⟨k, hk, hleads⟩ := leads_of_walk hwalk
  exact ⟨_, n, b, k, hk, hnames, hn, hleads, hplace, hget⟩

/-- Nothing is created behind names of which the last one leads on to a directory. -/
theorem freshPlace_ne_ok (h : Leads t k (t.start p) xs a) (hpre : Path.names p <+: xs) :
    t.freshPlace p ≠ .ok place := by
  intro hfresh
  obtain ⟨ns, n, b, k', -, hp, hn, hleads, rfl, hget⟩ := freshPlace_eq_ok hfresh
  rw [hp] at hpre
  obtain ⟨rest, rfl⟩ := hpre
  rw [List.append_assoc] at h
  obtain ⟨k'', -, hnext⟩ := hleads.of_leads_append h
  exact hnext.get?_ne_none hn.ne_up hget

/-- What is created for a part of a way lies on this way, if there are only directories on it. -/
theorem freshPlace_along (hwf : t.WellFormed) (h : Leads t k (t.start p) xs a)
    (hup : Path.upName ∉ ms)
    (hfolder : ∀ q, q ≠ [] → q <+: ms → ∀ e, t.get? (a ++ q) = some e → e = .folder)
    (hp : Path.names p <+: xs ++ ms) (hfresh : t.freshPlace p = .ok place) :
    ∃ ns n, ns ++ [n] <+: ms ∧ place = a ++ ns ++ [n] ∧ Path.IsProper n ∧
      t.get? (a ++ ns) = some .folder ∧ t.get? place = none := by
  have hlong : ¬Path.names p <+: xs := fun hpre => freshPlace_ne_ok h hpre hfresh
  obtain ⟨ns, n, c, k', -, hnames, hn, hns, rfl, hget⟩ := freshPlace_eq_ok hfresh
  obtain ⟨q, hq, rfl⟩ : ∃ q, q ++ [n] <+: ms ∧ ns = xs ++ q := by
    rcases List.prefix_or_prefix_of_prefix hp (List.prefix_append xs ms) with hpre | hpre
    · exact absurd hpre hlong
    · obtain ⟨rest, hrest⟩ := hpre
      rcases List.eq_nil_or_concat rest with rfl | ⟨q, m, rfl⟩
      · rw [List.append_nil] at hrest
        exact absurd (hrest ▸ List.prefix_refl _) hlong
      · rw [hnames, List.concat_eq_append, ← List.append_assoc] at hrest
        obtain ⟨rfl, hm⟩ := List.append_inj' hrest rfl
        obtain rfl : m = n := by simpa using hm
        rw [hnames, List.append_assoc, List.prefix_append_right_inj] at hp
        exact ⟨q, hp, rfl⟩
  have hpre : q <+: ms := (List.prefix_append q [n]).trans hq
  obtain ⟨k'', -, hon⟩ := h.of_leads_append hns
  have hplace : c = a ++ q := hon.eq_append (fun hmem => hup (hpre.subset hmem)) fun q' hq' hpre' =>
    hfolder q' hq' (hpre'.trans hpre)
  subst hplace
  exact ⟨q, n, hq, rfl, hn, hwf.folder_of_leads hns, hget⟩

/-- Nothing is created where something stands in the way that does not lead on. -/
theorem freshPlace_ne_ok_of_stop (h : Leads t k (t.start p) xs a) (hget : t.get? (a ++ [n]) ≠ none)
    (hstop : ∀ k ≤ maxLinks, ∀ b, ¬Leads t k (t.start p) (xs ++ [n]) b)
    (hpre : Path.names p <+: xs ++ n :: ms) : t.freshPlace p ≠ .ok place := by
  intro hfresh
  obtain ⟨ns, m, b, k', hk', hp, -, hleads, rfl, hnone⟩ := freshPlace_eq_ok hfresh
  have hother : ns ++ [m] ≠ xs ++ [n] := by
    intro heq
    obtain ⟨rfl, hm⟩ := List.append_inj' heq rfl
    rw [h.unique hleads, ← List.singleton_inj.1 hm] at hget
    exact hget hnone
  have hlong : ¬xs ++ [n] <+: ns := by
    rintro ⟨rest, rfl⟩
    obtain ⟨k₁, k₂, c, hsum, hfirst, -⟩ := hleads.of_append
    exact hstop k₁ (by omega) c hfirst
  have hfront : xs ++ [n] <+: xs ++ n :: ms := ⟨ms, by simp⟩
  rcases List.prefix_or_prefix_of_prefix hpre hfront with hpre | hpre
  · rcases List.prefix_concat_iff.1 hpre with heq | hpre
    · exact hother (hp ▸ heq)
    · exact freshPlace_ne_ok h hpre hfresh
  · rw [hp] at hpre
    rcases List.prefix_concat_iff.1 hpre with heq | hpre
    · exact hother heq.symm
    · exact hlong hpre

/-! ## Several directories -/

/-- A path for which a directory can be created, the path of another one or above it, goes along that
one. -/
theorem names_of_freshPlace (hq : q ∈ p :: Path.parents p) (hfresh : t.freshPlace q = .ok place) :
    Path.names q <+: Path.names p ∧ t.start q = t.start p := by
  rcases List.mem_cons.1 hq with rfl | hq
  · exact ⟨List.prefix_refl _, rfl⟩
  · obtain ⟨hpre, rfl | habsolute⟩ := Path.names_of_mem_parents hq
    · obtain ⟨ns, n, -, -, -, hnil, -⟩ := freshPlace_eq_ok hfresh
      simp [Path.names] at hnil
    · exact ⟨hpre.trans (List.dropLast_prefix _), by rw [start, start, habsolute]⟩

/-- A directory is made where one can be created. -/
theorem exists_freshPlace (h : t.makeFolder p = .ok t') :
    ∃ place, t.freshPlace p = .ok place ∧ t' = t.add place .folder := by
  rw [makeFolder] at h
  cases hplace : t.freshPlace p with
  | error e =>
      rw [hplace] at h
      cases h
  | ok place =>
      rw [hplace] at h
      cases h
      exact ⟨place, rfl, rfl⟩

/-- What each new directory preserves, the creation of a directory with those above it does, also
where it fails. -/
theorem makeFoldersFrom_induction {P : FileTree → Prop} {paths : List Path} (hP : P t)
    (hadd : ∀ t p place, P t → p ∈ paths → t.freshPlace p = .ok place → P (t.add place .folder)) :
    P (t.makeFoldersFrom paths).2 := by
  have hmade : ∀ t p t', P t → p ∈ paths → t.makeFolder p = .ok t' → P t' := by
    intro t p t' hP hp hmade
    obtain ⟨place, hplace, rfl⟩ := exists_freshPlace hmade
    exact hadd t p place hP hp hplace
  have hthere : ∀ t p, P t → p ∈ paths → P (t.makeFolderUnlessThere p).2 := by
    intro t p hP hp
    rw [makeFolderUnlessThere]
    split
    · exact hmade _ _ _ hP hp ‹_›
    · exact hP
  induction paths generalizing t with
  | nil => exact hP
  | cons p paths ih =>
      have hrest := ih hP (fun t q place hP hq => hadd t q place hP (List.mem_cons_of_mem p hq))
        (fun t q t' hP hq => hmade t q t' hP (List.mem_cons_of_mem p hq))
        fun t q hP hq => hthere t q hP (List.mem_cons_of_mem p hq)
      rw [makeFoldersFrom]
      split
      · exact hP
      · split
        · exact hmade _ _ _ hP List.mem_cons_self ‹_›
        · split
          · exact hP
          · split
            · rename_i heq
              rw [heq] at hrest
              exact hrest
            · rename_i heq
              rw [heq] at hrest
              exact hthere _ _ hrest List.mem_cons_self

/-- Where no directory can be created the tree stays as it is, and the creation fails unless the
directory is there. -/
theorem makeFoldersFrom_of_not_fresh {paths : List Path}
    (h : ∀ p ∈ paths, ∀ place, t.freshPlace p ≠ .ok place) :
    (t.makeFoldersFrom paths).2 = t ∧ ∀ p, paths.head? = some p → p ≠ [] →
      (t.makeFoldersFrom paths).1 = .ok () → t.isFolder p = true := by
  have htree : (t.makeFoldersFrom paths).2 = t :=
    makeFoldersFrom_induction (P := fun t' => t' = t) rfl fun t' p place ht' hp hfresh =>
      absurd (ht' ▸ hfresh) (h p hp place)
  refine ⟨htree, fun p hhead hne hok => ?_⟩
  cases paths with
  | nil => cases hhead
  | cons q above =>
      cases hhead
      have hmake : ∃ e, t.makeFolder p = .error e := by
        cases hmade : t.makeFolder p with
        | error e => exact ⟨e, rfl⟩
        | ok t' =>
            obtain ⟨place, hplace, -⟩ := exists_freshPlace hmade
            exact absurd hplace (h p List.mem_cons_self place)
      have habove : (t.makeFoldersFrom above).2 = t :=
        makeFoldersFrom_induction (P := fun t' => t' = t) rfl fun t' q place ht' hq hfresh =>
          absurd (ht' ▸ hfresh) (h q (List.mem_cons_of_mem p hq) place)
      obtain ⟨e, hmake⟩ := hmake
      rw [makeFoldersFrom, if_neg (by simpa using hne), hmake] at hok
      dsimp only at hok
      split at hok
      · by_contra hnot
        rw [if_neg hnot] at hok
        cases hok
      · split at hok
        · cases hok
        · rename_i t' heq
          rw [heq] at habove
          obtain rfl : t' = t := habove
          rw [makeFolderUnlessThere, hmake] at hok
          dsimp only at hok
          by_contra hnot
          rw [if_neg hnot] at hok
          cases hok

/-! ## Paths that do not exist -/

/-- Every `..` of the path comes behind a way to a directory. -/
def Climbs (t : FileTree) (p : Path) : Prop :=
  ∀ front back, Path.segments p = front ++ Path.upName :: back →
    ∃ a, t.walk true true maxLinks (t.start p) front = .ok (.found a .folder)

theorem climbs_of_up_notMem (h : Path.upName ∉ Path.segments p) (t : FileTree) : t.Climbs p :=
  fun _ _ hsegments => absurd (by simp [hsegments]) h

/-- The names of a path lead to a directory as far as to one that does not lead on, and behind that
one there is no `..`. -/
structure Stops (t : FileTree) (p : Path) (xs : List Name) (a : Place) (n : Name)
    (ys : List Name) : Prop where
  names : Path.names p = xs ++ n :: ys
  leads : ∃ k ≤ maxLinks, Leads t k (t.start p) xs a
  up_notMem : Path.upName ∉ n :: ys
  not_leads : ∀ k ≤ maxLinks, ∀ b, ¬Leads t k (t.start p) (xs ++ [n]) b

/-- The names of a path that does not exist do not lead to a directory. -/
theorem not_leads_of_stat (hkept : t.EndsKept p) (hmissing : t.stat p = .error .notFound)
    (hne : p ≠ []) (hk : k ≤ maxLinks) : ¬Leads t k (t.start p) (Path.names p) b := by
  intro hleads
  have hnul : Path.nul ∉ p := by
    intro hmem
    have hmem : Utf8.Piece.char '\x00' ∈ p := hmem
    rw [stat, find, locate, checkText, if_pos hmem] at hmissing
    cases hmissing
  rw [stat] at hmissing
  rcases find_eq_folder_or hkept hne hnul hleads hk with hfind | hfind
  · rw [hfind] at hmissing
    cases hmissing
  · rw [hfind] at hmissing
    cases hmissing

/-- What is created lies in a directory. -/
theorem Closed.folder_of_freshPlace (ht : t.Closed) (hfresh : t.freshPlace p = .ok place)
    (hplace : place = b ++ [n]) : t.get? b = some .folder := by
  obtain ⟨hcheck, front, m, c, hsegments, hwalk, hhere, hup, -, hc, -⟩ := walk_of_freshPlace hfresh
  obtain ⟨rfl, -⟩ := List.append_inj' (hplace.symm.trans hc) rfl
  rw [start] at hwalk
  by_cases habsolute : Path.isAbsolute p = true
  · rw [if_pos habsolute] at hwalk
    exact walk_entry ht rfl hwalk
  · rw [if_neg habsolute] at hwalk
    have hasks := checkText_asksRemoved hcheck (by simpa using habsolute)
    rw [hsegments] at hasks
    exact ht.folder_of_walk ht.home hhere hup hasks hwalk

/-- Names lead to a directory, or there is a first one that does not lead on. -/
theorem leads_or_exists (t : FileTree) (a : Place) (ns : List Name) :
    (∃ k ≤ maxLinks, ∃ b, Leads t k a ns b) ∨
      ∃ xs n ys, ns = xs ++ n :: ys ∧ (∃ k ≤ maxLinks, ∃ b, Leads t k a xs b) ∧
        ∀ k ≤ maxLinks, ∀ b, ¬Leads t k a (xs ++ [n]) b := by
  induction ns using List.reverseRecOn with
  | nil => exact .inl ⟨0, Nat.zero_le _, a, .done a⟩
  | append_singleton ns n ih =>
      rcases ih with hleads | ⟨xs, m, ys, rfl, hxs⟩
      · by_cases hon : ∃ k ≤ maxLinks, ∃ b, Leads t k a (ns ++ [n]) b
        · exact .inl hon
        · exact .inr ⟨ns, n, [], rfl, hleads, fun k hk b hb => hon ⟨k, hk, b, hb⟩⟩
      · exact .inr ⟨xs, m, ys ++ [n], by simp, hxs⟩

/-- The names before a step `..` lead to a directory. -/
theorem Climbs.leads (h : t.Climbs p) (hp : Path.names p = ns ++ Path.upName :: ms) :
    ∃ k ≤ maxLinks, ∃ b, Leads t k (t.start p) ns b := by
  obtain ⟨front, back, hsegments, hfront, hback⟩ := List.filter_eq_append_iff.1 hp
  obtain ⟨dots, rest, rfl, hdots, -, -⟩ := List.filter_eq_cons_iff.1 hback
  obtain ⟨b, hwalk⟩ := h (front ++ dots) rest (by simp [hsegments])
  obtain ⟨k, hk, hleads⟩ := leads_of_walk hwalk
  have hnone : (dots.filter fun n => n ≠ Path.hereName) = [] := List.filter_eq_nil_iff.2 hdots
  rw [List.filter_append, hfront, hnone, List.append_nil] at hleads
  exact ⟨k, hk, b, hleads⟩

/-- A path that does not exist stops somewhere. -/
theorem exists_stops (hkept : t.EndsKept p) (hmissing : t.stat p = .error .notFound)
    (hne : p ≠ []) (hclimbs : t.Climbs p) : ∃ xs a n ys, t.Stops p xs a n ys := by
  rcases leads_or_exists t (t.start p) (Path.names p) with
    ⟨k, hk, b, hleads⟩ | ⟨xs, n, ys, hp, ⟨k, hk, a, hleads⟩, hstop⟩
  · exact absurd hleads (not_leads_of_stat hkept hmissing hne hk)
  · refine ⟨xs, a, n, ys, hp, ⟨k, hk, hleads⟩, fun hup => ?_, hstop⟩
    obtain ⟨us, ws, hus⟩ := List.append_of_mem hup
    cases us with
    | nil =>
        obtain ⟨rfl, -⟩ := List.cons.inj hus
        have hon : Leads t (k + 0) (t.start p) (xs ++ [Path.upName]) a.dropLast :=
          hleads.append (.up (.done _))
        exact hstop k hk _ hon
    | cons u us =>
        -- the step `..` would stand behind a way to a directory, which goes on beyond `n`
        obtain ⟨rfl, rfl⟩ := List.cons.inj hus
        have hsplit : Path.names p = ((xs ++ [n]) ++ us) ++ Path.upName :: ws := by simp [hp]
        obtain ⟨k', hk', b, hway⟩ := hclimbs.leads hsplit
        obtain ⟨k₁, k₂, c, hsum, hfirst, -⟩ := hway.of_append
        exact hstop k₁ (by omega) c hfirst

end ImageSync.FileTree
