import ImageSync.Files.Tree
import ImageSync.Proofs.Files.Path
import Mathlib.Data.List.Induction

/-!
# Where paths lead

Paths are resolved by a loop over their names, with a limit on the links that it follows. Here the
same is said by rules, one for each kind of step, and the loop is shown to obey them.

## Main definitions

* `FileTree.Closed`, `FileTree.WellFormed`: trees in which every entry lies in a directory, and
  those of them in which the working directory was not removed.
* `FileTree.Extends`: trees of which another one has all entries.
* `FileTree.StartsKept`, `FileTree.EndsKept`: paths that do not start, or do not end, in a directory
  that was removed.
* `FileTree.Leads t k a ns b`: the names `ns` lead from the directory `a` to the directory `b`, by
  way of `k` links.

## Main statements

* `FileTree.Leads.walk`: the loop goes where the rules lead.
* `FileTree.leads_of_walk`: and nowhere else.
-/

namespace ImageSync.FileTree

open Text

/-! ## Entries -/

/-- Trees in which every entry has proper names and lies in a directory, as the working directory
did. What is left of the way to it, after directories on it were removed, is a directory. -/
structure Closed (t : FileTree) : Prop where
  nodup : (t.entries.map Prod.fst).Nodup
  proper : ∀ p ∈ t.entries, ∀ n ∈ p.1, Path.IsProper n
  inFolder : ∀ p ∈ t.entries, p.1 ≠ [] ∧ t.get? p.1.dropLast = some .folder
  home : t.get? (t.home.take (t.home.length - t.removed)) = some .folder

/-- Such trees with the working directory in them. -/
structure WellFormed (t : FileTree) : Prop extends Closed t where
  kept : t.removed = 0

/-- Whether the second tree has all entries of the first. -/
def Extends (t t' : FileTree) : Prop := ∀ q e, t.get? q = some e → t'.get? q = some e

theorem Extends.trans {t t' t'' : FileTree} (h : t.Extends t') (h' : t'.Extends t'') :
    t.Extends t'' :=
  fun q e hq => h' q e (h q e hq)

variable {t t' : FileTree} {a q : Place} {e : Entry}

@[simp] theorem get?_nil (t : FileTree) : t.get? [] = some .folder := rfl

theorem get?_of_ne_nil (h : q ≠ []) : t.get? q = t.entries.lookup q := by
  rw [get?, if_neg (by simpa using h)]

theorem mem_entries_of_get? (hq : q ≠ []) (h : t.get? q = some e) : (q, e) ∈ t.entries := by
  rw [get?_of_ne_nil hq, List.lookup_eq_some_iff] at h
  obtain ⟨l₁, l₂, hl, -⟩ := h
  rw [hl]
  simp

theorem get?_add (t : FileTree) (a : Place) (e : Entry) (hq : q ≠ []) :
    (t.add a e).get? q = (t.get? q).or (if q = a then some e else none) := by
  rw [get?_of_ne_nil hq, get?_of_ne_nil hq, add, List.lookup_append]
  congr 1
  by_cases h : q = a
  · simp [h]
  · simp [List.lookup_cons, beq_false_of_ne h, h]

/-- An entry of a tree with one more is an old one or the new one. -/
theorem of_get?_add {e' : Entry} (h : (t.add a e).get? q = some e') :
    t.get? q = some e' ∨ e' = e ∧ q = a := by
  by_cases hq : q = []
  · rw [hq] at h ⊢
    exact .inl h
  · rw [get?_add t a e hq] at h
    cases hold : t.get? q with
    | some old =>
        rw [hold] at h
        exact .inl h
    | none =>
        rw [hold, Option.none_or] at h
        split at h
        · cases h
          exact .inr ⟨rfl, ‹_›⟩
        · cases h

theorem extends_add (t : FileTree) (a : Place) (e : Entry) : t.Extends (t.add a e) := by
  intro q e' h
  by_cases hq : q = []
  · rw [hq] at h ⊢
    exact h
  · rw [get?_add t a e hq, h]
    rfl

namespace Closed

theorem get?_of_mem (h : t.Closed) (hq : (q, e) ∈ t.entries) : t.get? q = some e := by
  rw [get?_of_ne_nil (h.inFolder _ hq).1, List.lookup_eq_some_iff]
  obtain ⟨l₁, l₂, hl⟩ := List.append_of_mem hq
  refine ⟨l₁, l₂, hl, fun p hp => ?_⟩
  have hnodup := h.nodup
  rw [hl, List.map_append, List.nodup_append] at hnodup
  have hne : p.1 ≠ q := hnodup.2.2 p.1 (List.mem_map_of_mem hp) q (by simp)
  simpa using Ne.symm hne

theorem proper_of_get? (h : t.Closed) (hq : t.get? q = some e) : ∀ n ∈ q, Path.IsProper n := by
  cases q with
  | nil => simp
  | cons n q => exact h.proper _ (mem_entries_of_get? (by simp) hq)

/-- What lies below a place lies below a directory. -/
theorem folder_of_get?_append (h : t.Closed) {ns : List Name} (hne : ns ≠ [])
    (hq : t.get? (a ++ ns) = some e) : t.get? a = some .folder := by
  induction ns using List.reverseRecOn generalizing e with
  | nil => exact absurd rfl hne
  | append_singleton ns n ih =>
      have hmem := mem_entries_of_get? (by simp) hq
      have hfolder := (h.inFolder _ hmem).2
      rw [← List.append_assoc, List.dropLast_concat] at hfolder
      by_cases hns : ns = []
      · simpa [hns] using hfolder
      · exact ih hns hfolder

/-- The directory above a directory, which for the root is the root. -/
theorem get?_dropLast (h : t.Closed) (ha : t.get? a = some .folder) :
    t.get? a.dropLast = some .folder := by
  rcases List.eq_nil_or_concat a with rfl | ⟨a', n, rfl⟩
  · rfl
  · rw [List.concat_eq_append] at ha ⊢
    rw [List.dropLast_concat]
    exact h.folder_of_get?_append (by simp) ha

/-- Below a place where nothing lies, nothing lies. -/
theorem get?_append_eq_none (h : t.Closed) (ha : t.get? a = none) (ns : List Name) :
    t.get? (a ++ ns) = none := by
  by_cases hns : ns = []
  · simpa [hns] using ha
  · cases hq : t.get? (a ++ ns) with
    | none => rfl
    | some e =>
        rw [h.folder_of_get?_append hns hq] at ha
        cases ha

/-- A tree stays closed when an entry is added to a directory that does not have it. -/
theorem add (h : t.Closed) {n : Name} (hn : Path.IsProper n) (ha : t.get? a = some .folder)
    (hfresh : t.get? (a ++ [n]) = none) (e : Entry) : (t.add (a ++ [n]) e).Closed := by
  have hext := extends_add t (a ++ [n]) e
  constructor
  case nodup =>
    rw [FileTree.add, List.map_append, List.nodup_append]
    refine ⟨h.nodup, by simp, fun q hq q' hq' heq => ?_⟩
    obtain ⟨p, hp, rfl⟩ := List.mem_map.1 hq
    have hq' : q' = a ++ [n] := by simpa using hq'
    have hget := h.get?_of_mem (q := p.1) (e := p.2) hp
    rw [heq, hq', hfresh] at hget
    cases hget
  case proper =>
    intro p hp m hm
    rcases List.mem_append.1 hp with hp | hp
    · exact h.proper p hp m hm
    · rw [List.mem_singleton.1 hp] at hm
      rcases List.mem_append.1 hm with hm | hm
      · exact h.proper_of_get? ha m hm
      · rwa [List.mem_singleton.1 hm]
  case inFolder =>
    intro p hp
    rcases List.mem_append.1 hp with hp | hp
    · obtain ⟨hne, hfolder⟩ := h.inFolder p hp
      exact ⟨hne, hext _ _ hfolder⟩
    · rw [List.mem_singleton.1 hp]
      exact ⟨by simp, by simpa using hext _ _ ha⟩
  case home => exact hext _ _ h.home

end Closed

namespace WellFormed

theorem get?_home (h : t.WellFormed) : t.get? t.home = some .folder := by
  simpa [h.kept] using h.home

/-- A tree stays well formed when an entry is added to a directory that does not have it. -/
theorem add (h : t.WellFormed) {n : Name} (hn : Path.IsProper n) (ha : t.get? a = some .folder)
    (hfresh : t.get? (a ++ [n]) = none) (e : Entry) : (t.add (a ++ [n]) e).WellFormed :=
  ⟨h.toClosed.add hn ha hfresh e, h.kept⟩

theorem absolute?_eq (h : t.WellFormed) (p : Path) :
    t.absolute? p = Path.absolute? t.homePath p := by
  simp [absolute?, h.kept]

end WellFormed

/-! ## Rules for paths -/

/-- The names `ns`, none of them `.`, lead from the directory `a` to the directory `b`, by way of `k`
links. -/
inductive Leads (t : FileTree) : Nat → Place → List Name → Place → Prop
  | done (a : Place) : Leads t 0 a [] a
  | up {k : Nat} {a b : Place} {ns : List Name} (h : Leads t k a.dropLast ns b) :
      Leads t k a (Path.upName :: ns) b
  | folder {k : Nat} {a b : Place} {n : Name} {ns : List Name} (hn : n ≠ Path.upName)
      (hget : t.get? (a ++ [n]) = some .folder) (h : Leads t k (a ++ [n]) ns b) :
      Leads t k a (n :: ns) b
  | link {k : Nat} {a b : Place} {n : Name} {ns : List Name} {target : Path}
      (hn : n ≠ Path.upName) (hget : t.get? (a ++ [n]) = some (.link target))
      (h : Leads t k (if Path.isAbsolute target then [] else a) (Path.names target ++ ns) b) :
      Leads t (k + 1) a (n :: ns) b

namespace Leads

variable {k k' : Nat} {b c : Place} {ns ms : List Name}

theorem mono (h : Leads t k a ns b) (hext : t.Extends t') : Leads t' k a ns b := by
  induction h with
  | done a => exact .done a
  | up _ ih => exact .up ih
  | folder hn hget _ ih => exact .folder hn (hext _ _ hget) ih
  | link hn hget _ ih => exact .link hn (hext _ _ hget) ih

theorem append (h : Leads t k a ns b) (h' : Leads t k' b ms c) :
    Leads t (k + k') a (ns ++ ms) c := by
  induction h with
  | done a => simpa using h'
  | up _ ih => exact .up (ih h')
  | folder hn hget _ ih => exact .folder hn hget (ih h')
  | link hn hget _ ih =>
      rw [Nat.add_right_comm]
      refine .link hn hget ?_
      have hrest := ih h'
      rwa [List.append_assoc] at hrest

/-- Names of directories lead through them. -/
theorem of_folders (hup : Path.upName ∉ ns)
    (h : ∀ q, q ≠ [] → q <+: ns → t.get? (a ++ q) = some .folder) : Leads t 0 a ns (a ++ ns) := by
  induction ns generalizing a with
  | nil => simpa using Leads.done a
  | cons n ns ih =>
      rw [List.mem_cons, not_or] at hup
      have hn : t.get? (a ++ [n]) = some .folder := h [n] (by simp) ⟨ns, rfl⟩
      refine .folder (Ne.symm hup.1) hn ?_
      have hrest := ih (a := a ++ [n]) hup.2 fun q hq hpre => by
        have := h (n :: q) (by simp) ((List.prefix_cons_inj n).2 hpre)
        simpa using this
      simpa using hrest

/-- The names of a place lead to it. -/
theorem of_place (h : t.WellFormed) (ha : t.get? (a ++ ns) = some .folder) (hns : Path.upName ∉ ns) :
    Leads t 0 a ns (a ++ ns) := by
  refine of_folders hns fun q _ hpre => ?_
  obtain ⟨rest, rfl⟩ := hpre
  by_cases hrest : rest = []
  · simpa [hrest] using ha
  · rw [← List.append_assoc] at ha
    exact h.folder_of_get?_append hrest ha

theorem folder_of_folder (h : Leads t k a ns b) (ht : t.WellFormed)
    (ha : t.get? a = some .folder) : t.get? b = some .folder := by
  induction h with
  | done a => exact ha
  | up _ ih => exact ih (ht.get?_dropLast ha)
  | folder _ hget _ ih => exact ih hget
  | link _ _ _ ih =>
      refine ih ?_
      split
      · rfl
      · exact ha

end Leads

/-! ## The loop obeys the rules -/

section Walk

variable {links k : Nat} {follow needed : Bool} {b : Place} {n : Name} {ns xs ys : List Name}

theorem walk_here (t : FileTree) (follow needed : Bool) (links : Nat) (a : Place) (ns : List Name) :
    t.walk follow needed links a (Path.hereName :: ns) = t.walk follow needed links a ns := by
  cases links <;> simp [walk, walkWith]

theorem walk_nil (t : FileTree) (follow needed : Bool) (links : Nat) (a : Place) :
    t.walk follow needed links a [] = .ok (.found a .folder) := by
  cases links <;> rfl

theorem walk_up (t : FileTree) (follow needed : Bool) (links : Nat) (a : Place) (ns : List Name) :
    t.walk follow needed links a (Path.upName :: ns) = t.walk follow needed links a.dropLast ns := by
  have hne : Path.upName ≠ Path.hereName := by decide
  cases links <;> simp [walk, walkWith, hne]

theorem walk_folder (hhere : n ≠ Path.hereName) (hup : n ≠ Path.upName)
    (hname : t.exceedsName n = false) (h : t.get? (a ++ [n]) = some .folder) :
    t.walk follow needed links a (n :: ns) = t.walk follow needed links (a ++ [n]) ns := by
  cases links <;> simp [walk, walkWith, hhere, hup, hname, h]

theorem walk_none (hhere : n ≠ Path.hereName) (hup : n ≠ Path.upName)
    (hname : t.exceedsName n = false) (h : t.get? (a ++ [n]) = none) :
    t.walk follow needed links a (n :: ns) =
      if ns.isEmpty then .ok (.missing a n) else .error .notFound := by
  cases links <;> simp [walk, walkWith, hhere, hup, hname, h]

theorem walk_link {target : Path} (hhere : n ≠ Path.hereName) (hup : n ≠ Path.upName)
    (hname : t.exceedsName n = false) (h : t.get? (a ++ [n]) = some (.link target)) :
    t.walk true needed (links + 1) a (n :: ns) =
      t.walk true (needed || (ns.isEmpty && Path.endsInSlash target)) links
        (if Path.isAbsolute target then [] else a) (Path.segments target ++ ns) := by
  simp [walk, walkWith, hhere, hup, hname, h]

theorem walk_file {content : List UInt8} (hhere : n ≠ Path.hereName) (hup : n ≠ Path.upName)
    (hname : t.exceedsName n = false) (h : t.get? (a ++ [n]) = some (.file content)) :
    t.walk follow needed links a (n :: ns) =
      if ns.isEmpty && !needed then .ok (.found (a ++ [n]) (.file content))
      else .error .notDirectory := by
  cases links <;> simp [walk, walkWith, hhere, hup, hname, h]

theorem walk_tooLong (hhere : n ≠ Path.hereName) (hup : n ≠ Path.upName)
    (hname : t.exceedsName n = true) :
    t.walk follow needed links a (n :: ns) = .error .nameTooLong := by
  cases links <;> simp [walk, walkWith, hhere, hup, hname]

theorem walk_skip (t : FileTree) (follow needed : Bool) (links : Nat) (a : Place)
    (h : ∀ n ∈ xs, n = Path.hereName) :
    t.walk follow needed links a (xs ++ ys) = t.walk follow needed links a ys := by
  induction xs with
  | nil => rfl
  | cons n xs ih =>
      rw [h n List.mem_cons_self, List.cons_append, walk_here]
      exact ih fun m hm => h m (List.mem_cons_of_mem n hm)

/-- The loop goes where the rules lead, and on from there, unless a name is too long. -/
theorem Leads.walk_or (h : Leads t k a ns b) (hxs : (xs.filter fun n => n ≠ Path.hereName) = ns)
    (hk : k ≤ links) (needed : Bool) (ys : List Name) :
    (∃ n, t.exceedsName n = true ∧
        t.walk true needed links a (xs ++ ys) = .error .nameTooLong) ∨
      ∃ needed', t.walk true needed links a (xs ++ ys) =
        t.walk true needed' (links - k) b ys := by
  induction h generalizing links needed xs with
  | done a =>
      have hdots : ∀ n ∈ xs, n = Path.hereName := by
        simpa [List.filter_eq_nil_iff] using hxs
      exact .inr ⟨needed, walk_skip t true needed links a hdots⟩
  | up h ih =>
      obtain ⟨dots, rest, rfl, hdots, -, hrest⟩ := List.filter_eq_cons_iff.1 hxs
      rw [List.append_assoc, walk_skip t true needed links _ (by simpa using hdots),
        List.cons_append, walk_up]
      exact ih hrest hk needed
  | @folder k a b n ns hn hget h ih =>
      obtain ⟨dots, rest, rfl, hdots, hhere, hrest⟩ := List.filter_eq_cons_iff.1 hxs
      have hhere : n ≠ Path.hereName := by simpa using hhere
      rw [List.append_assoc, walk_skip t true needed links _ (by simpa using hdots),
        List.cons_append]
      by_cases hname : t.exceedsName n = true
      · exact .inl ⟨n, hname, walk_tooLong hhere hn hname⟩
      · rw [walk_folder hhere hn (by simpa using hname) hget]
        exact ih hrest hk needed
  | @link k a b n ns target hn hget h ih =>
      obtain ⟨dots, rest, rfl, hdots, hhere, hrest⟩ := List.filter_eq_cons_iff.1 hxs
      have hhere : n ≠ Path.hereName := by simpa using hhere
      obtain ⟨left, rfl⟩ : ∃ left, links = left + 1 := ⟨links - 1, by omega⟩
      have hclean : ((Path.segments target ++ rest).filter fun n => n ≠ Path.hereName) =
          Path.names target ++ ns := by rw [List.filter_append, hrest, Path.names]
      have hleft : left - k = left + 1 - (k + 1) := by omega
      rw [List.append_assoc, walk_skip t true needed (left + 1) _ (by simpa using hdots),
        List.cons_append]
      by_cases hname : t.exceedsName n = true
      · exact .inl ⟨n, hname, walk_tooLong hhere hn hname⟩
      · rw [walk_link hhere hn (by simpa using hname) hget, ← List.append_assoc, ← hleft]
        exact ih hclean (by omega) _

/-- Without a limit on names, the loop goes where the rules lead. -/
theorem Leads.walk (h : Leads t k a ns b) (hlimits : ∀ n, t.exceedsName n = false)
    (hxs : (xs.filter fun n => n ≠ Path.hereName) = ns) (hk : k ≤ links) (needed : Bool)
    (ys : List Name) :
    ∃ needed', t.walk true needed links a (xs ++ ys) =
      t.walk true needed' (links - k) b ys := by
  rcases h.walk_or hxs hk needed ys with ⟨n, hname, -⟩ | hwalk
  · simp [hlimits n] at hname
  · exact hwalk

/-- A path that leads to a directory. -/
theorem Leads.walk_eq_found (h : Leads t k a ns b) (hlimits : ∀ n, t.exceedsName n = false)
    (hxs : (xs.filter fun n => n ≠ Path.hereName) = ns) (hk : k ≤ links) (needed : Bool) :
    t.walk true needed links a xs = .ok (.found b .folder) := by
  obtain ⟨needed', hwalk⟩ := h.walk hlimits hxs hk needed []
  rw [List.append_nil, walk_nil] at hwalk
  exact hwalk

/-- What one step of the loop can be that does not fail. -/
theorem walk_cons_of_ok {location : Location}
    (h : t.walk true needed links a (n :: xs) = .ok location) :
    (n = Path.hereName ∧ t.walk true needed links a xs = .ok location) ∨
      (n = Path.upName ∧ t.walk true needed links a.dropLast xs = .ok location) ∨
      (n ≠ Path.hereName ∧ n ≠ Path.upName ∧ t.exceedsName n = false ∧
        ((t.get? (a ++ [n]) = some .folder ∧
            t.walk true needed links (a ++ [n]) xs = .ok location) ∨
          (∃ target left, t.get? (a ++ [n]) = some (.link target) ∧ links = left + 1 ∧
            t.walk true (needed || (xs.isEmpty && Path.endsInSlash target)) left
                (if Path.isAbsolute target then [] else a) (Path.segments target ++ xs) =
              .ok location) ∨
          (xs = [] ∧ (location = .missing a n ∨
            ∃ content, t.get? (a ++ [n]) = some (.file content) ∧ needed = false ∧
              location = .found (a ++ [n]) (.file content))))) := by
  by_cases hhere : n = Path.hereName
  · rw [hhere, walk_here] at h
    exact .inl ⟨hhere, h⟩
  · by_cases hup : n = Path.upName
    · rw [hup, walk_up] at h
      exact .inr (.inl ⟨hup, h⟩)
    · by_cases hname : t.exceedsName n = true
      · rw [walk_tooLong hhere hup hname] at h
        cases h
      · rw [Bool.not_eq_true] at hname
        refine .inr (.inr ⟨hhere, hup, hname, ?_⟩)
        cases hget : t.get? (a ++ [n]) with
        | none =>
            rw [walk_none hhere hup hname hget] at h
            split at h
            · cases h
              exact .inr (.inr ⟨by simpa using ‹xs.isEmpty = true›, .inl rfl⟩)
            · cases h
        | some e =>
            cases e with
            | folder =>
                rw [walk_folder hhere hup hname hget] at h
                exact .inl ⟨rfl, h⟩
            | file content =>
                rw [walk_file hhere hup hname hget] at h
                split at h
                · cases h
                  rename_i hlast
                  rw [Bool.and_eq_true, List.isEmpty_iff, Bool.not_eq_true'] at hlast
                  exact .inr (.inr ⟨hlast.1, .inr ⟨content, rfl, hlast.2, rfl⟩⟩)
                · cases h
            | link target =>
                cases links with
                | zero => simp [FileTree.walk, walkWith, hhere, hup, hname, hget] at h
                | succ left =>
                    rw [walk_link hhere hup hname hget] at h
                    exact .inr (.inl ⟨target, left, rfl, rfl, h⟩)

/-- The loop goes nowhere but where the rules lead: to a directory, or to the last name behind one.
Where a directory is needed, that last name is missing somewhere. -/
theorem leads_of_walk_ok {location : Location} (h : t.walk true needed links a xs = .ok location) :
    ∃ k ≤ links, (∃ b, location = .found b .folder ∧
        Leads t k a (xs.filter fun n => n ≠ Path.hereName) b) ∨
      ∃ ns n b, (xs.filter fun n => n ≠ Path.hereName) = ns ++ [n] ∧ Leads t k a ns b ∧
        (∀ c, location ≠ .found c .folder) ∧
        (needed = true → ∃ c m, location = .missing c m) := by
  induction links using Nat.strongRecOn generalizing needed a xs with
  | ind links ihLinks =>
      induction xs generalizing a with
      | nil =>
          rw [walk_nil] at h
          cases h
          exact ⟨0, Nat.zero_le links, .inl ⟨a, rfl, .done _⟩⟩
      | cons n xs ih =>
          rcases walk_cons_of_ok h with ⟨rfl, hrest⟩ | ⟨rfl, hrest⟩ | ⟨hhere, hup, -, hstep⟩
          · simpa using ih hrest
          · have hne : Path.upName ≠ Path.hereName := by decide
            rw [List.filter_cons_of_pos (by simpa using hne)]
            obtain ⟨k, hk, ⟨b, hb, hleads⟩ | ⟨ns, m, b, hxs, hleads, hnot⟩⟩ := ih hrest
            · exact ⟨k, hk, .inl ⟨b, hb, .up hleads⟩⟩
            · exact ⟨k, hk, .inr ⟨Path.upName :: ns, m, b, by rw [hxs]; rfl, .up hleads, hnot⟩⟩
          · rw [List.filter_cons_of_pos (by simpa using hhere)]
            rcases hstep with ⟨hget, hrest⟩ | ⟨target, left, hget, rfl, hrest⟩ | ⟨rfl, hend⟩
            · obtain ⟨k, hk, ⟨b, hb, hleads⟩ | ⟨ns, m, b, hxs, hleads, hnot⟩⟩ := ih hrest
              · exact ⟨k, hk, .inl ⟨b, hb, .folder hup hget hleads⟩⟩
              · exact ⟨k, hk, .inr ⟨n :: ns, m, b, by rw [hxs]; rfl, .folder hup hget hleads,
                  hnot⟩⟩
            · obtain ⟨k, hk, hcases⟩ := ihLinks left (Nat.lt_succ_self left) hrest
              rw [List.filter_append] at hcases
              rcases hcases with ⟨b, hb, hleads⟩ | ⟨ns, m, b, hxs, hleads, hfolder, hmissing⟩
              · exact ⟨k + 1, Nat.succ_le_succ hk, .inl ⟨b, hb, .link hup hget hleads⟩⟩
              · have hneeded : needed = true → ∃ c m, location = .missing c m := fun hneeded =>
                  hmissing (by simp [hneeded])
                rcases List.eq_nil_or_concat (xs.filter fun n => n ≠ Path.hereName) with
                  hnil | ⟨front, l, hfront⟩
                · exact ⟨0, Nat.zero_le _, .inr ⟨[], n, a, by rw [hnil]; rfl, .done a, hfolder,
                    hneeded⟩⟩
                · -- the last name stands behind the link, so the names before it lead on from there
                  rw [hfront, List.concat_eq_append, ← List.append_assoc] at hxs
                  obtain ⟨hns, hm⟩ := List.append_inj' hxs rfl
                  rw [← hns] at hleads
                  refine ⟨k + 1, Nat.succ_le_succ hk, .inr ⟨n :: front, l, b, ?_,
                    .link hup hget hleads, hfolder, hneeded⟩⟩
                  rw [hfront, List.concat_eq_append]
                  rfl
            · refine ⟨0, Nat.zero_le _, .inr ⟨[], n, a, rfl, .done a, ?_, ?_⟩⟩
              · rcases hend with rfl | ⟨content, -, -, rfl⟩ <;> exact nofun
              · intro hneeded
                rcases hend with rfl | ⟨content, -, hfalse, -⟩
                · exact ⟨a, n, rfl⟩
                · rw [hneeded] at hfalse
                  cases hfalse

/-- A directory that the loop finds is one that the rules lead to. -/
theorem leads_of_walk (h : t.walk true needed links a xs = .ok (.found b .folder)) :
    ∃ k ≤ links, Leads t k a (xs.filter fun n => n ≠ Path.hereName) b := by
  obtain ⟨k, hk, ⟨c, hc, hleads⟩ | ⟨-, -, -, -, -, hnot, -⟩⟩ := leads_of_walk_ok h
  · cases hc
    exact ⟨k, hk, hleads⟩
  · exact absurd rfl (hnot b)

/-- What the loop finds it finds in a tree with more entries, too. -/
theorem walk_mono (hext : t.Extends t') (hlimits : t'.limits = t.limits)
    (h : t.walk true needed links a xs = .ok (.found b e)) :
    t'.walk true needed links a xs = .ok (.found b e) := by
  have hsame : ∀ n, t'.exceedsName n = t.exceedsName n := fun n => by
    rw [exceedsName, exceedsName, hlimits]
  induction links using Nat.strongRecOn generalizing needed a xs with
  | ind links ihLinks =>
      induction xs generalizing a with
      | nil =>
          rw [walk_nil] at h ⊢
          exact h
      | cons n xs ih =>
          rcases walk_cons_of_ok h with ⟨rfl, hrest⟩ | ⟨rfl, hrest⟩ | ⟨hhere, hup, hname, hstep⟩
          · simpa only [walk_here] using ih hrest
          · simpa only [walk_up] using ih hrest
          · rw [← hsame] at hname
            rcases hstep with ⟨hget, hrest⟩ | ⟨target, left, hget, rfl, hrest⟩ | ⟨rfl, hend⟩
            · rw [walk_folder hhere hup hname (hext _ _ hget)]
              exact ih hrest
            · rw [walk_link hhere hup hname (hext _ _ hget)]
              exact ihLinks left (Nat.lt_succ_self left) hrest
            · rcases hend with hmissing | ⟨content, hget, rfl, hfile⟩
              · cases hmissing
              · rw [walk_file hhere hup hname (hext _ _ hget), hfile]
                rfl

/-- From a directory that the loop finds it goes on with the names behind. -/
theorem walk_append (h : t.walk true needed links a xs = .ok (.found b .folder)) (needed' : Bool)
    (hys : ys ≠ []) :
    ∃ left, t.walk true needed' links a (xs ++ ys) = t.walk true needed' left b ys := by
  induction links using Nat.strongRecOn generalizing needed a xs with
  | ind links ihLinks =>
      induction xs generalizing a with
      | nil =>
          rw [walk_nil] at h
          cases h
          exact ⟨links, rfl⟩
      | cons n xs ih =>
          rw [List.cons_append]
          rcases walk_cons_of_ok h with ⟨rfl, hrest⟩ | ⟨rfl, hrest⟩ | ⟨hhere, hup, hname, hstep⟩
          · simpa only [walk_here] using ih hrest
          · simpa only [walk_up] using ih hrest
          · rcases hstep with ⟨hget, hrest⟩ | ⟨target, left, hget, rfl, hrest⟩ | ⟨-, hend⟩
            · simpa only [walk_folder hhere hup hname hget] using ih hrest
            · have hinside : (xs ++ ys).isEmpty = false := by simp [hys]
              rw [walk_link hhere hup hname hget, ← List.append_assoc, hinside, Bool.false_and,
                Bool.or_false]
              exact ihLinks left (Nat.lt_succ_self left) hrest
            · rcases hend with hmissing | ⟨content, -, -, hfile⟩
              · cases hmissing
              · cases hfile

theorem walkWith_congr {beyond beyond' : Bool → Place → List Name → Except SystemError Location}
    (hbeyond : ∀ needed a ns, beyond needed a ns ≠ .error .linkLoop →
      beyond' needed a ns = beyond needed a ns)
    (h : t.walkWith follow beyond needed a xs ≠ .error .linkLoop) :
    t.walkWith follow beyond' needed a xs = t.walkWith follow beyond needed a xs := by
  induction xs generalizing a with
  | nil => rfl
  | cons n xs ih =>
      unfold walkWith at h ⊢
      split
      · rename_i hhere
        rw [if_pos hhere] at h
        exact ih h
      · rename_i hhere
        rw [if_neg hhere] at h
        split
        · rename_i hup
          rw [if_pos hup] at h
          exact ih h
        · rename_i hup
          rw [if_neg hup] at h
          split
          · rfl
          · rename_i hname
            rw [if_neg hname] at h
            cases hget : t.get? (a ++ [n]) with
            | none => rfl
            | some e =>
                rw [hget] at h
                cases e with
                | folder => exact ih h
                | file content => rfl
                | link target =>
                    dsimp only at h ⊢
                    split
                    · rfl
                    · rename_i hon
                      rw [if_neg hon] at h
                      exact hbeyond _ _ _ h

/-- With more links to follow the loop ends as before, unless it ran out of them. -/
theorem walk_of_le {links' : Nat} (h : t.walk follow needed links a xs ≠ .error .linkLoop)
    (hle : links ≤ links') :
    t.walk follow needed links' a xs = t.walk follow needed links a xs := by
  induction links generalizing links' needed a xs with
  | zero =>
      cases links' with
      | zero => rfl
      | succ links' => exact walkWith_congr (fun _ _ _ hloop => absurd rfl hloop) h
  | succ links ih =>
      obtain ⟨links', rfl⟩ : ∃ left, links' = left + 1 := ⟨links' - 1, by omega⟩
      exact walkWith_congr (fun _ _ _ hbeyond => ih hbeyond (Nat.le_of_succ_le_succ hle)) h

/-- Without following a link at its end, a path that leads to a directory leads there or to the
link. -/
theorem walk_false_of_walk_true (h : t.walk true needed links a xs = .ok (.found b .folder)) :
    t.walk false needed links a xs = .ok (.found b .folder) ∨
      ∃ c target, t.walk false needed links a xs = .ok (.found c (.link target)) := by
  induction links using Nat.strongRecOn generalizing needed a xs with
  | ind links ihLinks =>
      induction xs generalizing a with
      | nil =>
          rw [walk_nil] at h ⊢
          exact .inl h
      | cons n xs ih =>
          rcases walk_cons_of_ok h with ⟨rfl, hrest⟩ | ⟨rfl, hrest⟩ | ⟨hhere, hup, hname, hstep⟩
          · simpa only [walk_here] using ih hrest
          · simpa only [walk_up] using ih hrest
          · rcases hstep with ⟨hget, hrest⟩ | ⟨target, left, hget, rfl, hrest⟩ | ⟨-, hend⟩
            · simpa only [walk_folder hhere hup hname hget] using ih hrest
            · by_cases hlast : (xs.isEmpty && !needed) = true
              · refine .inr ⟨a ++ [n], target, ?_⟩
                simp_all [FileTree.walk, walkWith]
              · have hfalse : t.walk false needed (left + 1) a (n :: xs) =
                    t.walk false (needed || (xs.isEmpty && Path.endsInSlash target)) left
                      (if Path.isAbsolute target then [] else a) (Path.segments target ++ xs) := by
                  simp only [FileTree.walk, walkWith, if_neg hhere, if_neg hup, hname, hget,
                    Bool.false_eq_true, if_false, Bool.not_false, Bool.and_true]
                  rw [if_neg hlast]
                rw [hfalse]
                exact ihLinks left (Nat.lt_succ_self left) hrest
            · rcases hend with hmissing | ⟨content, -, -, hfile⟩
              · cases hmissing
              · cases hfile

theorem walkWith_entry {beyond : Bool → Place → List Name → Except SystemError Location}
    (ht : t.Closed)
    (hbeyond : ∀ needed a ns, t.get? a = some .folder →
      beyond needed a ns = .ok (.found b e) → t.get? b = some e)
    (ha : t.get? a = some .folder) (h : t.walkWith follow beyond needed a xs = .ok (.found b e)) :
    t.get? b = some e := by
  induction xs generalizing a with
  | nil =>
      cases h
      exact ha
  | cons n xs ih =>
      unfold walkWith at h
      split at h
      · exact ih ha h
      · split at h
        · exact ih (ht.get?_dropLast ha) h
        · split at h
          · cases h
          · split at h
            · split at h <;> cases h
            · rename_i hfolder
              exact ih hfolder h
            · rename_i hfile
              split at h
              · cases h
                exact hfile
              · cases h
            · rename_i hlink
              split at h
              · cases h
                exact hlink
              · refine hbeyond _ _ _ ?_ h
                split
                · rfl
                · exact ha

/-- What the loop finds lies where it says. -/
theorem walk_entry (ht : t.Closed) (ha : t.get? a = some .folder)
    (h : t.walk follow needed links a xs = .ok (.found b e)) : t.get? b = some e := by
  induction links generalizing needed a xs with
  | zero => exact walkWith_entry ht (fun _ _ _ _ herror => by cases herror) ha h
  | succ links ih => exact walkWith_entry ht (fun _ _ _ ha h => ih ha h) ha h

/-- Where a name is asked for behind a directory that the loop finds, this directory was not
removed. -/
theorem Closed.folder_of_walk {removed : Nat} (ht : t.Closed)
    (ha : t.get? (a.take (a.length - removed)) = some .folder) (hhere : n ≠ Path.hereName)
    (hup : n ≠ Path.upName) (hasks : asksRemoved removed (xs ++ [n]) = false)
    (h : t.walk follow needed links a xs = .ok (.found b .folder)) : t.get? b = some .folder := by
  induction xs generalizing a removed with
  | nil =>
      cases removed with
      | zero => exact walk_entry ht (by simpa using ha) h
      | succ removed => simp [asksRemoved, hhere, hup] at hasks
  | cons x xs ih =>
      cases removed with
      | zero => exact walk_entry ht (by simpa using ha) h
      | succ removed =>
          rw [List.cons_append, asksRemoved] at hasks
          by_cases hx : x = Path.hereName
          · rw [if_pos hx] at hasks
            rw [hx, walk_here] at h
            exact ih ha hasks h
          · by_cases hx' : x = Path.upName
            · rw [if_neg hx, if_pos hx'] at hasks
              rw [hx', walk_up] at h
              refine ih ?_ hasks h
              rwa [List.dropLast_eq_take, List.take_take, List.length_take,
                show min (min (a.length - 1) a.length - removed) (a.length - 1) =
                  a.length - (removed + 1) by omega]
            · rw [if_neg hx, if_neg hx'] at hasks
              cases hasks

end Walk

/-! ## Paths -/

section Paths

variable {k : Nat} {b : Place} {n : Name} {ns ms : List Name} {p : Path}

/-- Paths start in a directory. -/
theorem WellFormed.get?_start (h : t.WellFormed) (p : Path) : t.get? (t.start p) = some .folder := by
  unfold start
  split
  · rfl
  · exact h.get?_home

theorem WellFormed.folder_of_leads (h : t.WellFormed) (hleads : Leads t k (t.start p) ns b) :
    t.get? b = some .folder :=
  hleads.folder_of_folder h (h.get?_start p)

theorem exceedsName_eq_false (hlimits : t.limits = .unlimited) (n : Name) :
    t.exceedsName n = false := by
  rw [exceedsName, hlimits]
  rfl

@[simp] theorem asksRemoved_zero (ns : List Name) : asksRemoved 0 ns = false := by
  cases ns <;> rfl

/-- The path does not start in a directory that was removed. -/
def StartsKept (t : FileTree) (p : Path) : Prop := Path.isAbsolute p = true ∨ t.removed = 0

/-- The path does not end in a directory that was removed: whatever is asked for behind it, no removed
directory is asked. -/
def EndsKept (t : FileTree) (p : Path) : Prop :=
  Path.isAbsolute p = true ∨ ∀ ns, asksRemoved t.removed (Path.segments p ++ ns) = false

theorem endsKept_of_kept (h : t.removed = 0) (p : Path) : t.EndsKept p :=
  .inr fun ns => by rw [h, asksRemoved_zero]

theorem WellFormed.endsKept (h : t.WellFormed) (p : Path) : t.EndsKept p := endsKept_of_kept h.kept p

theorem EndsKept.asksRemoved (h : t.EndsKept p) :
    (!Path.isAbsolute p && FileTree.asksRemoved t.removed (Path.segments p)) = false := by
  rcases h with habsolute | hkept
  · simp [habsolute]
  · simpa using fun _ => hkept []

/-- So it is with a name behind it. -/
theorem EndsKept.append (h : t.EndsKept p) (hne : p ≠ []) (hn : Path.IsProper n) :
    t.EndsKept (Path.append p n) := by
  refine h.imp (fun habsolute => by rwa [Path.isAbsolute_append_name hne]) fun hkept ns => ?_
  rw [Path.segments_append, Path.segments_of_slash_notMem hn.ne_nil hn.slash_notMem,
    List.append_assoc]
  exact hkept _

theorem checkText_eq_ok (hkept : t.EndsKept p) (hlimits : t.limits = .unlimited) (hne : p ≠ [])
    (hnul : Path.nul ∉ p) : t.checkText p = .ok () := by
  have hpath : t.exceedsPath p = false := by
    rw [exceedsPath, hlimits]
    rfl
  have hnul : Utf8.Piece.char '\x00' ∉ p := hnul
  rw [checkText, if_neg hnul, if_neg (by simpa using hne), hpath, hkept.asksRemoved]
  rfl

theorem checkText_asksRemoved (h : t.checkText p = .ok ()) (habsolute : Path.isAbsolute p = false) :
    asksRemoved t.removed (Path.segments p) = false := by
  unfold checkText at h
  split_ifs at h with _ _ _ hasks
  simpa [habsolute] using hasks

/-- What is known of the text of a path that may exist. -/
theorem of_checkText (h : t.checkText p = .ok ()) : p ≠ [] ∧ Path.nul ∉ p := by
  unfold checkText at h
  split at h
  · cases h
  · split at h
    · cases h
    · rename_i hnul hempty
      exact ⟨by simpa using hempty, hnul⟩

/-- A path leads to what the loop finds, if there can be such a path. -/
theorem find_eq_ok_iff {follow : Bool} : t.find p follow = .ok (b, e) ↔
    t.checkText p = .ok () ∧
      t.walk follow (Path.endsInSlash p) maxLinks (t.start p) (Path.segments p) =
        .ok (.found b e) := by
  rw [find, locate]
  cases t.checkText p with
  | error e' => simp
  | ok u =>
      cases t.walk follow (Path.endsInSlash p) maxLinks (t.start p) (Path.segments p) with
      | error e' => simp
      | ok location => cases location <;> simp

/-- What a path leads to lies where it leads. -/
theorem WellFormed.get?_of_find (ht : t.WellFormed) {follow : Bool}
    (h : t.find p follow = .ok (b, e)) : t.get? b = some e :=
  walk_entry ht.toClosed (ht.get?_start p) (find_eq_ok_iff.1 h).2

/-- A directory that a path leads to is in the tree, unless it was removed. -/
theorem Closed.folder_of_find (ht : t.Closed) (hkept : t.EndsKept p) {follow : Bool}
    (h : t.find p follow = .ok (b, .folder)) : t.get? b = some .folder := by
  have hwalk := (find_eq_ok_iff.1 h).2
  unfold start at hwalk
  rcases hkept with habsolute | hkept
  · rw [if_pos habsolute] at hwalk
    exact walk_entry ht rfl hwalk
  · split at hwalk
    · exact walk_entry ht rfl hwalk
    · exact ht.folder_of_walk ht.home (n := [.char 'x']) (by decide) (by decide) (hkept _) hwalk

/-- A path whose names lead to a directory leads there. -/
theorem find_eq_folder (hkept : t.EndsKept p) (hlimits : t.limits = .unlimited) (hne : p ≠ [])
    (hnul : Path.nul ∉ p) (h : Leads t k (t.start p) (Path.names p) b) (hk : k ≤ maxLinks) :
    t.find p true = .ok (b, .folder) :=
  find_eq_ok_iff.2 ⟨checkText_eq_ok hkept hlimits hne hnul,
    h.walk_eq_found (exceedsName_eq_false hlimits) rfl hk (Path.endsInSlash p)⟩

/-- A path whose names lead to a directory leads there, unless it is too long or has a name that
is. -/
theorem find_eq_folder_or (hkept : t.EndsKept p) (hne : p ≠ []) (hnul : Path.nul ∉ p)
    (h : Leads t k (t.start p) (Path.names p) b) (hk : k ≤ maxLinks) :
    t.find p true = .ok (b, .folder) ∨ t.find p true = .error .nameTooLong := by
  have hclean : ((Path.segments p).filter fun n => n ≠ Path.hereName) = Path.names p := rfl
  have hnul : Utf8.Piece.char '\x00' ∉ p := hnul
  rw [find, locate, checkText, if_neg hnul, if_neg (by simpa using hne), hkept.asksRemoved,
    if_neg Bool.false_ne_true]
  by_cases hlong : t.exceedsPath p = true
  · rw [if_pos hlong]
    exact .inr rfl
  · rw [if_neg hlong]
    dsimp only
    rcases h.walk_or hclean hk (Path.endsInSlash p) [] with ⟨-, -, hlong⟩ | ⟨needed, hon⟩
    · rw [List.append_nil] at hlong
      rw [hlong]
      exact .inr rfl
    · rw [List.append_nil, walk_nil] at hon
      rw [hon]
      exact .inl rfl

/-- What a path leads to it leads to in a tree with more entries, too. -/
theorem find_mono (hext : t.Extends t') (hhome : t'.home = t.home)
    (hremoved : t'.removed = t.removed) (hlimits : t'.limits = t.limits)
    (h : t.find p true = .ok (b, e)) : t'.find p true = .ok (b, e) := by
  obtain ⟨hcheck, hwalk⟩ := find_eq_ok_iff.1 h
  have hsame : t'.checkText p = t.checkText p := by
    rw [checkText, checkText, exceedsPath, exceedsPath, hlimits, hremoved]
  have hstart : t'.start p = t.start p := by rw [start, start, hhome]
  exact find_eq_ok_iff.2 ⟨hsame.trans hcheck, hstart ▸ walk_mono hext hlimits hwalk⟩

/-- A path that leads to a directory has names that lead there. -/
theorem leads_of_find (h : t.find p true = .ok (b, .folder)) :
    p ≠ [] ∧ Path.nul ∉ p ∧ ∃ k ≤ maxLinks, Leads t k (t.start p) (Path.names p) b := by
  obtain ⟨hcheck, hwalk⟩ := find_eq_ok_iff.1 h
  obtain ⟨hne, hnul⟩ := of_checkText hcheck
  exact ⟨hne, hnul, leads_of_walk hwalk⟩

theorem exists_find_of_isFolder (h : t.isFolder p = true) :
    ∃ a, t.find p true = .ok (a, .folder) := by
  unfold isFolder stat at h
  cases hfind : t.find p true with
  | error e => simp [hfind, Except.map] at h
  | ok found =>
      obtain ⟨a, e⟩ := found
      cases e with
      | folder => exact ⟨a, rfl⟩
      | file content => simp [hfind, Except.map] at h
      | link target => simp [hfind, Except.map] at h

/-- A path that leads to a directory that lacks its next name leads nowhere. -/
theorem find_eq_notFound (hkept : t.EndsKept p) (hlimits : t.limits = .unlimited) (hne : p ≠ [])
    (hnul : Path.nul ∉ p)
    (hp : Path.names p = ns ++ n :: ms) (h : Leads t k (t.start p) ns a) (hk : k ≤ maxLinks)
    (hn : Path.IsProper n) (hmissing : t.get? (a ++ [n]) = none) :
    t.find p true = .error .notFound := by
  obtain ⟨front, back, hsegments, hfront, hback⟩ := List.filter_eq_append_iff.1 hp
  obtain ⟨dots, rest, rfl, hdots, -, -⟩ := List.filter_eq_cons_iff.1 hback
  obtain ⟨needed, hwalk⟩ := h.walk (exceedsName_eq_false hlimits) hfront hk (Path.endsInSlash p)
    (dots ++ n :: rest)
  rw [walk_skip t true needed _ a (by simpa using hdots),
    walk_none hn.ne_here hn.ne_up (exceedsName_eq_false hlimits n) hmissing] at hwalk
  rw [find, locate, checkText_eq_ok hkept hlimits hne hnul]
  cases rest with
  | nil => simp only [hsegments, hwalk, List.isEmpty_nil, if_true]
  | cons m rest => simp only [hsegments, hwalk, List.isEmpty_cons, Bool.false_eq_true, if_false]

/-- Without following a link at its end, a path to a directory leads there or to the link. -/
theorem find_false_of_find_true (h : t.find p true = .ok (b, .folder)) :
    t.find p false = .ok (b, .folder) ∨ ∃ c target, t.find p false = .ok (c, .link target) := by
  obtain ⟨hcheck, hwalk⟩ := find_eq_ok_iff.1 h
  rcases walk_false_of_walk_true hwalk with hfolder | ⟨c, target, hlink⟩
  · exact .inl (find_eq_ok_iff.2 ⟨hcheck, hfolder⟩)
  · exact .inr ⟨c, target, find_eq_ok_iff.2 ⟨hcheck, hlink⟩⟩

end Paths

end ImageSync.FileTree
