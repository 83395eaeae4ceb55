import ImageSync.Catalog.Reader
import Mathlib.Data.List.Nodup
import Mathlib.Tactic.WLOG

/-!
# Catalogs are kept in ascending order

What is read from a catalog stands in ascending order of its names, and the order in which it was
written plays no part.

## Main definitions

* `Sorted.Ascending`: pairs in strictly ascending order of their keys.
* `Catalog.Ascending`: the same for all maps of a catalog.

## Main statements

* `Sorted.ofPairs_perm`: pairs with different keys give one map, whatever their order.
* `Catalog.map?_perm`: the same for the fields of a mapping.
* `Catalog.ascending_of_load`: a catalog that was read from a file is ascending.
-/

namespace ImageSync.Sorted

variable {α : Type}

/-- Whether the keys of pairs ascend. So no key occurs twice. -/
def Ascending (pairs : List (String × α)) : Prop := (pairs.map Prod.fst).Pairwise (· < ·)

theorem ascending_nil : Ascending ([] : List (String × α)) := List.Pairwise.nil

theorem ascending_cons {k : String} {v : α} {l : List (String × α)} :
    Ascending ((k, v) :: l) ↔ (∀ p ∈ l, k < p.1) ∧ Ascending l := by
  simp [Ascending]

theorem lt_of_ne_of_not_lt {k k' : String} (hne : k ≠ k') (h : ¬k < k') : k' < k := by
  rcases Std.lt_trichotomy k k' with hlt | heq | hgt
  · exact absurd hlt h
  · exact absurd heq hne
  · exact hgt

/-- A map stays ascending when a value is put into it. -/
theorem Ascending.put {l : List (String × α)} (h : Ascending l) (k : String) (v : α) :
    Ascending (put k v l) := by
  induction l with
  | nil => exact ascending_cons.2 ⟨by simp, ascending_nil⟩
  | cons p l ih =>
      obtain ⟨k', v'⟩ := p
      obtain ⟨hall, hl⟩ := ascending_cons.1 h
      rw [Sorted.put]
      split
      · rename_i hlt
        refine ascending_cons.2 ⟨fun p hp => ?_, h⟩
        rcases List.mem_cons.1 hp with rfl | hp
        · exact hlt
        · exact String.lt_trans hlt (hall p hp)
      · rename_i hlt
        split
        · rename_i heq
          exact ascending_cons.2 ⟨by rwa [heq], hl⟩
        · rename_i hne
          refine ascending_cons.2 ⟨fun p hp => ?_, ih hl⟩
          rcases mem_put hp with rfl | hp
          · exact lt_of_ne_of_not_lt hne hlt
          · exact hall p hp

theorem ascending_ofPairs (pairs : List (String × α)) : Ascending (ofPairs pairs) := by
  have hfold : ∀ map : List (String × α), Ascending map →
      Ascending (pairs.foldl (fun map p => put p.1 p.2 map) map) := by
    induction pairs with
    | nil => exact fun map h => h
    | cons p pairs ih => exact fun map h => ih _ (h.put p.1 p.2)
  exact hfold [] ascending_nil

theorem mem_of_mem_ofPairs {pairs : List (String × α)} {p : String × α} (h : p ∈ ofPairs pairs) :
    p ∈ pairs := by
  have hfold : ∀ map : List (String × α),
      p ∈ pairs.foldl (fun map p => put p.1 p.2 map) map → p ∈ pairs ∨ p ∈ map := by
    clear h
    induction pairs with
    | nil => exact fun map h => .inr h
    | cons q pairs ih =>
        intro map h
        rcases ih _ h with h | h
        · exact .inl (List.mem_cons_of_mem q h)
        · rcases mem_put h with rfl | h
          · exact .inl List.mem_cons_self
          · exact .inr h
  rcases hfold [] h with h | h
  · exact h
  · cases h

/-- Values at different keys can be put in either order. -/
theorem put_comm {k k' : String} (hne : k ≠ k') (v v' : α) (l : List (String × α)) :
    put k v (put k' v' l) = put k' v' (put k v l) := by
  wlog hlt : k < k' generalizing k k' v v'
  · exact (this (Ne.symm hne) v' v (lt_of_ne_of_not_lt hne hlt)).symm
  have hgt : ¬k' < k := String.lt_asymm hlt
  induction l with
  | nil => simp [Sorted.put, hlt, hgt, Ne.symm hne]
  | cons p l ih =>
      obtain ⟨k₀, v₀⟩ := p
      rcases Std.lt_trichotomy k k₀ with h | rfl | h
      · by_cases h' : k' < k₀
        · simp [Sorted.put, hlt, hgt, h, h', Ne.symm hne]
        · by_cases heq : k' = k₀
          · subst heq
            simp [Sorted.put, hlt, hgt, Ne.symm hne]
          · simp [Sorted.put, h, h', heq, hgt, Ne.symm hne]
      · simp [Sorted.put, hgt, Ne.symm hne]
      · have hk : ¬k < k₀ := String.lt_asymm h
        have hk' : k₀ < k' := String.lt_trans h hlt
        have hk₀ : ¬k' < k₀ := String.lt_asymm hk'
        have hne₀ : k ≠ k₀ := by
          rintro rfl
          exact String.lt_irrefl k h
        have hne₀' : k' ≠ k₀ := by
          rintro rfl
          exact String.lt_irrefl k' hk'
        simp [Sorted.put, hk, hk₀, hne₀, hne₀', ih]

/-- Pairs with different keys give one map, whatever their order. -/
theorem ofPairs_perm {pairs pairs' : List (String × α)} (h : pairs.Perm pairs')
    (hkeys : (pairs.map Prod.fst).Nodup) : ofPairs pairs = ofPairs pairs' := by
  refine h.foldl_eq' (fun p hp q hq map => ?_) []
  by_cases hpq : p = q
  · rw [hpq]
  · refine put_comm (fun hkey => hpq ?_) q.2 p.2 map
    exact (List.inj_on_of_nodup_map hkeys hq hp hkey).symm

end ImageSync.Sorted

namespace ImageSync.Catalog

open Yaml (Node)

variable {α β γ : Type}

/-! ## Reading lists -/

theorem exists_of_mem_mapM {f : α → Option β} {l : List α} {bs : List β} {b : β}
    (h : l.mapM f = some bs) (hb : b ∈ bs) : ∃ a ∈ l, f a = some b := by
  induction l generalizing bs with
  | nil =>
      cases h
      cases hb
  | cons a l ih =>
      simp only [List.mapM_cons, Option.bind_eq_bind, Option.bind_eq_some_iff, Option.pure_def,
        Option.some.injEq] at h
      obtain ⟨b', hb', bs', hbs', rfl⟩ := h
      rcases List.mem_cons.1 hb with rfl | hb
      · exact ⟨a, List.mem_cons_self, hb'⟩
      · obtain ⟨a', ha', hfa'⟩ := ih hbs' hb
        exact ⟨a', List.mem_cons_of_mem a ha', hfa'⟩

theorem map_eq_of_mapM {f : α → Option β} {g : β → γ} {k : α → γ}
    (hgk : ∀ a b, f a = some b → g b = k a) {l : List α} {bs : List β}
    (h : l.mapM f = some bs) : bs.map g = l.map k := by
  induction l generalizing bs with
  | nil =>
      cases h
      rfl
  | cons a l ih =>
      simp only [List.mapM_cons, Option.bind_eq_bind, Option.bind_eq_some_iff, Option.pure_def,
        Option.some.injEq] at h
      obtain ⟨b, hb, rest, hrest, rfl⟩ := h
      rw [List.map_cons, List.map_cons, hgk a b hb, ih hrest]

/-- Items that can all be read can be read in any order. -/
theorem exists_perm_of_mapM {f : α → Option β} {l l' : List α} (h : l.Perm l') {bs : List β}
    (hbs : l.mapM f = some bs) : ∃ bs', l'.mapM f = some bs' ∧ bs.Perm bs' := by
  induction h generalizing bs with
  | nil => exact ⟨bs, hbs, .refl bs⟩
  | cons a _ ih =>
      simp only [List.mapM_cons, Option.bind_eq_bind, Option.bind_eq_some_iff, Option.pure_def,
        Option.some.injEq] at hbs
      obtain ⟨b, hb, rest, hrest, rfl⟩ := hbs
      obtain ⟨rest', hrest', hperm⟩ := ih hrest
      exact ⟨b :: rest', by simp [hb, hrest'], hperm.cons b⟩
  | swap a a' l =>
      simp only [List.mapM_cons, Option.bind_eq_bind, Option.bind_eq_some_iff, Option.pure_def,
        Option.some.injEq] at hbs
      obtain ⟨b', hb', _, ⟨b, hb, rest, hrest, rfl⟩, rfl⟩ := hbs
      exact ⟨b :: b' :: rest, by simp [hb, hb', hrest], .swap b b' rest⟩
  | trans _ _ ih ih' =>
      obtain ⟨bs₁, hbs₁, hperm⟩ := ih hbs
      obtain ⟨bs₂, hbs₂, hperm'⟩ := ih' hbs₁
      exact ⟨bs₂, hbs₂, hperm.trans hperm'⟩

/-! ## Reading maps -/

theorem map?_eq_some {read : Node → Option α} {n : Node} {l : List (String × α)}
    (h : map? read n = some l) :
    ∃ fs pairs, n.named? = some fs ∧
      fs.mapM (fun f => (read f.2).map fun a => (f.1, a)) = some pairs ∧
      l = Sorted.ofPairs pairs := by
  simp only [map?, Option.bind_eq_bind, Option.bind_eq_some_iff, Option.pure_def,
    Option.some.injEq] at h
  obtain ⟨fs, hfs, pairs, hpairs, rfl⟩ := h
  refine ⟨fs, pairs, hfs, ?_, rfl⟩
  rw [← hpairs]
  congr 1
  funext f
  cases read f.2 <;> rfl

theorem ascending_of_map? {read : Node → Option α} {n : Node} {l : List (String × α)}
    (h : map? read n = some l) : Sorted.Ascending l := by
  obtain ⟨fs, pairs, -, -, rfl⟩ := map?_eq_some h
  exact Sorted.ascending_ofPairs pairs

/-- What is found in a map was read. -/
theorem exists_read_of_mem_map? {read : Node → Option α} {n : Node} {l : List (String × α)}
    {p : String × α} (h : map? read n = some l) (hp : p ∈ l) : ∃ node, read node = some p.2 := by
  obtain ⟨fs, pairs, -, hpairs, rfl⟩ := map?_eq_some h
  obtain ⟨f, -, hf⟩ := exists_of_mem_mapM hpairs (Sorted.mem_of_mem_ofPairs hp)
  obtain ⟨a, ha, rfl⟩ := Option.map_eq_some_iff.1 hf
  exact ⟨f.2, ha⟩

/-! ## Ascending catalogs -/

end ImageSync.Catalog

namespace ImageSync

/-- Whether the repositories of an entry ascend. -/
structure RegistryEntry.Ascending (e : RegistryEntry) : Prop where
  images : Sorted.Ascending e.images
  patterns : Sorted.Ascending e.patterns

/-- Whether the registries of a catalog and their repositories ascend. -/
structure Catalog.Ascending (c : Catalog) : Prop where
  registries : Sorted.Ascending c.registries
  entries : ∀ p ∈ c.registries, p.2.Ascending

namespace Catalog

open Yaml (Node)

variable {α : Type}

theorem ascending_of_setting? {fs : List (String × Node)} {key : String} {read : Node → Option α}
    {l : List (String × α)} (h : setting? fs key [] (map? read) = some l) : Sorted.Ascending l := by
  unfold setting? at h
  cases hkey : fs.lookup key with
  | none =>
      rw [hkey] at h
      cases h
      exact Sorted.ascending_nil
  | some n =>
      rw [hkey] at h
      exact ascending_of_map? h

theorem ascending_of_entry? {n : Node} {e : RegistryEntry} (h : entry? n = some e) :
    e.Ascending := by
  unfold entry? at h
  simp only [Option.bind_eq_bind, Option.bind_eq_some_iff, Option.pure_def,
    Option.some.injEq] at h
  obtain ⟨fs, -, images, himages, patterns, hpatterns, -, -, -, -, -, -, rfl⟩ := h
  exact ⟨ascending_of_setting? himages, ascending_of_setting? hpatterns⟩

theorem ascending_of_parse? {text : String} {c : Catalog} (h : parse? text = some c) :
    c.Ascending := by
  unfold parse? at h
  split at h
  · cases h
    exact ⟨Sorted.ascending_nil, by simp⟩
  · simp only [Option.bind_eq_bind, Option.bind_eq_some_iff, Option.pure_def,
      Option.some.injEq] at h
    obtain ⟨n, -, registries, hregistries, rfl⟩ := h
    refine ⟨ascending_of_map? hregistries, fun p hp => ?_⟩
    obtain ⟨node, hnode⟩ := exists_read_of_mem_map? hregistries hp
    exact ascending_of_entry? hnode

/-- A catalog that was read from a file is ascending. -/
theorem ascending_of_load {tree : FileTree} {path : String} {c : Catalog}
    (h : load tree path = .ok c) : c.Ascending := by
  unfold load at h
  split at h
  · cases h
  · split at h
    · cases h
    · split at h
      · cases h
      · rename_i hparse
        cases h
        exact ascending_of_parse? hparse

/-- The order in which the fields of a mapping are written plays no part. -/
theorem map?_perm {read : Node → Option α} {fields fields' : List (Node × Node)}
    (h : fields.Perm fields') {l : List (String × α)} (hl : map? read (.mapping fields) = some l)
    (hnames : (fields.map fun f => f.1.text?).Nodup) : map? read (.mapping fields') = some l := by
  obtain ⟨named, pairs, hnamed, hpairs, rfl⟩ := map?_eq_some hl
  obtain ⟨named', hnamed', hperm⟩ := exists_perm_of_mapM h hnamed
  obtain ⟨pairs', hpairs', hperm'⟩ := exists_perm_of_mapM hperm hpairs
  have htexts : (named.map Prod.fst).map some = fields.map fun f => f.1.text? := by
    rw [List.map_map]
    refine map_eq_of_mapM (fun f q hq => ?_) hnamed
    simp only [Option.bind_eq_bind, Option.bind_eq_some_iff, Option.pure_def,
      Option.some.injEq] at hq
    obtain ⟨text, htext, rfl⟩ := hq
    exact htext.symm
  have hkeys : pairs.map Prod.fst = named.map Prod.fst := by
    refine map_eq_of_mapM (fun f q hq => ?_) hpairs
    obtain ⟨a, -, rfl⟩ := Option.map_eq_some_iff.1 hq
    rfl
  have hnodup : (pairs.map Prod.fst).Nodup := by
    rw [hkeys]
    exact List.Nodup.of_map some (by rwa [htexts])
  rw [map?, show Node.named? (.mapping fields') = some named' from hnamed', Option.bind_eq_bind,
    Option.bind_some]
  rw [Sorted.ofPairs_perm hperm' hnodup, ← Option.bind_some pairs' fun ps => some (Sorted.ofPairs ps),
    ← hpairs']
  congr 2
  funext f
  cases read f.2 <;> rfl

end Catalog

end ImageSync
