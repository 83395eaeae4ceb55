import ImageSync.Proofs.Files.Create
import ImageSync.Proofs.Files.Search

/-!
# A file tree during an export

An export adds image directories below one place and changes nothing else. Their places are given by
lists of names, none of which begins with another one. So each image directory is new when its turn
comes, and later ones leave it as it is.

## Main definitions

* `FileTree.Room t p a ms`: room for an export at the path `p`.
* `FileTree.AgreesOutside t t' a`: the trees differ below the directory `a` only.
* `FileTree.Exported t₀ a ms done t`: the tree with these image directories.

## Main statements

* `FileTree.Exported.exists_missing`: where the next image directory begins to be missing.
* `FileTree.Exported.next`: one more image directory.
* `FileTree.Exported.outermost_iff`: what a search finds.
-/

namespace ImageSync.FileTree

/-! ## Trees before, during and after an export -/

/-- Room for an export at a path without `..`: its names lead to the directory `a`, except for the
last ones, `ms`, that are missing there. If none is missing, the directory is empty. -/
structure Room (t : FileTree) (p : Path) (a : Place) (ms : List Name) : Prop where
  ne_nil : p ≠ []
  up_notMem : Path.upName ∉ Path.segments p
  nul_notMem : Path.nul ∉ p
  leads : ∃ k ≤ maxLinks, ∃ ns, Path.names p = ns ++ ms ∧ Leads t k (t.start p) ns a
  free : ∀ q, q ≠ [] → q <+: ms ∨ ms <+: q → t.get? (a ++ q) = none

/-- The trees differ in nothing but what lies in the directory `a`, at any depth. -/
structure AgreesOutside (t t' : FileTree) (a : Place) : Prop where
  home : t'.home = t.home
  limits : t'.limits = t.limits
  get? : ∀ q, (a <+: q → q = a) → t'.get? q = t.get? q

/-- The tree `t` is `t₀` with image directories at `done`, lists of names from `a` on that begin with
`ms`. -/
structure Exported (t₀ : FileTree) (a : Place) (ms : List Name) (done : List (List Name))
    (t : FileTree) : Prop where
  wellFormed : t.WellFormed
  home : t.home = t₀.home
  limits : t.limits = t₀.limits
  isExtended : t₀.Extends t
  below : ∀ q e, q ≠ [] → q <+: ms ∨ ms <+: q → t.get? (a ++ q) = some e →
    (e = .folder ∧ ∃ f ∈ done, q <+: f) ∨ ∃ f ∈ done, f <+: q ∧ f ≠ q
  images : ∀ f ∈ done, t.get? (a ++ f) = some .folder ∧
    ∃ content, t.get? (a ++ f ++ [manifestName]) = some (.file content)

variable {t t₀ t₁ : FileTree} {p : Path} {a : Place} {ms f : List Name} {done : List (List Name)}

/-- Before the first image is exported. -/
theorem Exported.start (hwf : t.WellFormed) (hroom : t.Room p a ms) : Exported t a ms [] t where
  wellFormed := hwf
  home := rfl
  limits := rfl
  isExtended := fun _ _ h => h
  below := fun q e hq hcomparable hget => by
    rw [hroom.free q hq hcomparable] at hget
    cases hget
  images := fun f hf => absurd hf List.not_mem_nil

namespace Exported

variable {k : Nat} {b : Place} {ns xs : List Name}

/-- What leads to the place of the export leads to the directories below it. -/
theorem leads_append (h : Exported t₀ a ms done t) (hleads : Leads t₀ k b ns a)
    (hup : Path.upName ∉ xs)
    (hxs : ∀ q, q ≠ [] → q <+: xs → t.get? (a ++ q) = some .folder) :
    Leads t k b (ns ++ xs) (a ++ xs) :=
  (hleads.mono h.isExtended).append (.of_folders hup hxs)

theorem start_eq (h : Exported t₀ a ms done t) (p : Path) : t.start p = t₀.start p := by
  rw [FileTree.start, FileTree.start, h.home]

theorem homePath_eq (h : Exported t₀ a ms done t) : t.homePath = t₀.homePath := by
  rw [homePath, homePath, h.home]

end Exported

/-! ## The next image directory -/

/-- Names from a directory on either all name directories or there is a first one that does not. -/
theorem folders_or_exists (t : FileTree) (a : Place) (f : List Name) :
    (∀ q, q ≠ [] → q <+: f → t.get? (a ++ q) = some .folder) ∨
      ∃ xs n ys, f = xs ++ n :: ys ∧ (∀ q, q ≠ [] → q <+: xs → t.get? (a ++ q) = some .folder) ∧
        t.get? (a ++ xs ++ [n]) ≠ some .folder := by
  induction f using List.reverseRecOn with
  | nil => exact .inl fun q hq hpre => absurd (List.prefix_nil.1 hpre) hq
  | append_singleton f n ih =>
      rcases ih with hall | ⟨xs, m, ys, rfl, hxs, hm⟩
      · by_cases hn : t.get? (a ++ f ++ [n]) = some .folder
        · refine .inl fun q hq hpre => ?_
          rcases List.prefix_concat_iff.1 hpre with rfl | hpre
          · rwa [← List.append_assoc]
          · exact hall q hq hpre
        · exact .inr ⟨f, n, [], rfl, hall, hn⟩
      · exact .inr ⟨xs, m, ys ++ [n], by simp, hxs, hm⟩

/-- Lists of names of which neither begins with the other. -/
def Apart (f g : List Name) : Prop := ¬f <+: g ∧ ¬g <+: f

/-- The next image directory is missing from some name on. -/
theorem Exported.exists_missing (h : Exported t₀ a ms done t) (hms : ms <+: f) (hne : f ≠ [])
    (hapart : ∀ g ∈ done, Apart f g) :
    ∃ xs n ys, f = xs ++ n :: ys ∧ (∀ q, q ≠ [] → q <+: xs → t.get? (a ++ q) = some .folder) ∧
      t.get? (a ++ xs ++ [n]) = none := by
  have hcomparable : ∀ q, q <+: f → q <+: ms ∨ ms <+: q := fun q hq =>
    List.prefix_or_prefix_of_prefix hq hms
  rcases folders_or_exists t a f with hall | ⟨xs, n, ys, rfl, hxs, hn⟩
  · -- then the directory itself would be there, although no exported one is above or below it
    have hget := hall f hne (List.prefix_refl f)
    rcases h.below f _ hne (hcomparable f (List.prefix_refl f)) hget with
      ⟨-, g, hg, hfg⟩ | ⟨g, hg, hgf, -⟩
    · exact absurd hfg (hapart g hg).1
    · exact absurd hgf (hapart g hg).2
  · refine ⟨xs, n, ys, rfl, hxs, ?_⟩
    cases hget : t.get? (a ++ xs ++ [n]) with
    | none => rfl
    | some e =>
        have hpre : xs ++ [n] <+: xs ++ n :: ys := ⟨ys, by simp⟩
        rw [List.append_assoc] at hget hn
        rcases h.below _ e (by simp) (hcomparable _ hpre) hget with
          ⟨rfl, -⟩ | ⟨g, hg, hgq, -⟩
        · exact absurd hget hn
        · exact absurd (hgq.trans hpre) (hapart g hg).2

/-- One more image directory: its missing part has been created and then the image was written into
it. -/
theorem Exported.next (h : Exported t₀ a ms done t) {xs ys : List Name} {n : Name}
    (hf : f = xs ++ n :: ys) (hfresh : t.get? (a ++ xs ++ [n]) = none)
    (hagrees : (t.addFolders (a ++ xs) (n :: ys)).AgreesOutside t₁ (a ++ f)) (hwf : t₁.WellFormed)
    (himage : ∃ content, t₁.get? (a ++ f ++ [manifestName]) = some (.file content)) :
    Exported t₀ a ms (done ++ [f]) t₁ := by
  have hplace : a ++ f = a ++ xs ++ n :: ys := by simp [hf]
  have hnone : t.get? (a ++ f) = none := by
    rw [hplace]
    simpa using h.wellFormed.get?_append_eq_none hfresh ys
  have hcreated : (t.addFolders (a ++ xs) (n :: ys)).get? (a ++ f) = some .folder := by
    rw [hplace]
    exact h.wellFormed.get?_addFolders hfresh (by simp) (List.prefix_refl _)
  -- old entries are not below the new directory, so they are still there
  have hkept : t.Extends t₁ := by
    intro q e hq
    rw [hagrees.get? q fun hpre => ?_]
    · exact extends_addFolders t _ _ q e hq
    · obtain ⟨rest, rfl⟩ := hpre
      rw [h.wellFormed.get?_append_eq_none hnone rest] at hq
      cases hq
  constructor
  case wellFormed => exact hwf
  case home => rw [hagrees.home, home_addFolders, h.home]
  case limits => rw [hagrees.limits, limits_addFolders, h.limits]
  case isExtended => exact h.isExtended.trans hkept
  case below =>
    intro q e hq hcomparable hget
    by_cases hinside : f <+: q ∧ f ≠ q
    · exact .inr ⟨f, by simp, hinside⟩
    · have houtside : a ++ f <+: a ++ q → a ++ q = a ++ f := by
        intro hpre
        have hfq : f <+: q := (List.prefix_append_right_inj a).1 hpre
        rw [Decidable.byContradiction fun hne => hinside ⟨hfq, hne⟩]
      rw [hagrees.get? _ houtside] at hget
      rcases of_get?_addFolders hget with hold | ⟨rfl, m, -, hm, hplace'⟩
      · rcases h.below q e hq hcomparable hold with ⟨he, g, hg, hqg⟩ | ⟨g, hg, hgq⟩
        · exact .inl ⟨he, g, by simp [hg], hqg⟩
        · exact .inr ⟨g, by simp [hg], hgq⟩
      · rw [List.append_assoc, List.append_cancel_left_eq] at hplace'
        refine .inl ⟨rfl, f, by simp, ?_⟩
        rw [hplace', hf]
        exact (List.prefix_append_right_inj xs).2 hm
  case images =>
    intro g hg
    rcases List.mem_append.1 hg with hg | hg
    · obtain ⟨hfolder, content, hcontent⟩ := h.images g hg
      exact ⟨hkept _ _ hfolder, content, hkept _ _ hcontent⟩
    · rw [List.mem_singleton.1 hg]
      refine ⟨?_, himage⟩
      rw [hagrees.get? _ fun _ => rfl]
      exact hcreated

/-! ## What is found afterwards -/

section Search

variable {ns q : List Name} {base : Path}

/-- Where an exported image directory, or a directory above one, is reached by a path. -/
theorem Exported.find_below (h : Exported t₀ a ms done t) (hlimits : t.limits = .unlimited)
    (hbase : t.find base true = .ok (a ++ ms, .folder))
    (hget : t.get? (a ++ ms ++ q) = some .folder) :
    t.find (base.below q) true = .ok (a ++ ms ++ q, .folder) := by
  have hclosed := h.wellFormed.toClosed
  have hkept := h.wellFormed.endsKept base
  exact (readable_of_unlimited hclosed hkept hlimits hbase).find_below hclosed hkept hbase hget

/-- A directory that does not lie in an exported one is no image. -/
theorem Exported.holdsImage_eq_false (h : Exported t₀ a ms done t)
    (hlimits : t.limits = .unlimited) (hbase : t.find base true = .ok (a ++ ms, .folder))
    (hget : t.get? (a ++ ms ++ q) = some .folder) (hno : ∀ g ∈ done, ¬g <+: ms ++ q) :
    t.holdsImage (base.below q) = false := by
  refine FileTree.holdsImage_eq_false (h.wellFormed.endsKept _) hlimits
    (h.find_below hlimits hbase hget) fun e hentry => ?_
  rw [List.append_assoc, List.append_assoc, ← List.append_assoc ms] at hentry
  have hcomparable : ms <+: ms ++ q ++ [manifestName] := ⟨q ++ [manifestName], by simp⟩
  rcases h.below _ e (by simp) (.inr hcomparable) hentry with ⟨he, -⟩ | ⟨g, hg, hpre, hne⟩
  · exact he
  · rcases List.prefix_concat_iff.1 hpre with heq | hpre
    · exact absurd heq hne
    · exact absurd hpre (hno g hg)

/-- A search at the place of the export finds the exported image directories. -/
theorem Exported.outermost_iff (h : Exported t₀ a ms done t) (hlimits : t.limits = .unlimited)
    (hms : ∀ f ∈ done, ms <+: f) (hapart : ∀ f ∈ done, ∀ g ∈ done, f <+: g → f = g)
    (hbase : t.find base true = .ok (a ++ ms, .folder)) :
    t.Outermost (fun ns => t.holdsImage (base.below ns)) (a ++ ms) ns ↔ ms ++ ns ∈ done := by
  have hplace := h.wellFormed.get?_of_find hbase
  have hholds : ∀ q, ms ++ q ∈ done → t.holdsImage (base.below q) = true := by
    intro q hq
    obtain ⟨hfolder, content, hcontent⟩ := h.images _ hq
    rw [← List.append_assoc] at hfolder hcontent
    exact holdsImage_of_file (h.wellFormed.endsKept _) hlimits (h.find_below hlimits hbase hfolder)
      hcontent
  constructor
  · intro houter
    by_contra hnot
    have hend := houter.image
    rw [h.holdsImage_eq_false hlimits hbase (houter.folder_of_prefix hplace (List.prefix_refl ns))]
      at hend
    · cases hend
    · -- an exported directory above would have stopped the search
      intro g hg hpre
      obtain ⟨q, rfl⟩ := hms g hg
      have hq : q <+: ns := (List.prefix_append_right_inj ms).1 hpre
      have hstop := houter.image_eq_false (fun heq => hnot (heq ▸ hg)) hq
      rw [hholds q hg] at hstop
      cases hstop
  · intro hmem
    obtain ⟨hfolder, -⟩ := h.images _ hmem
    have habove : ∀ q, q <+: ns → t.get? (a ++ ms ++ q) = some .folder := by
      rintro q ⟨rest, rfl⟩
      by_cases hrest : rest = []
      · simpa [hrest] using hfolder
      · refine h.wellFormed.folder_of_get?_append hrest (e := .folder) ?_
        simpa using hfolder
    refine outermost_of (fun q _ hpre => habove q hpre) (fun q hne hpre => ?_) (hholds ns hmem)
    refine h.holdsImage_eq_false hlimits hbase (habove q hpre) fun g hg hgq => ?_
    have hqf : ms ++ q <+: ms ++ ns := (List.prefix_append_right_inj ms).2 hpre
    have heq := hapart g hg _ hmem (hgq.trans hqf)
    rw [heq] at hgq
    have hback : ns <+: q := (List.prefix_append_right_inj ms).1 hgq
    exact hne (hpre.eq_of_length_le hback.length_le)

end Search

end ImageSync.FileTree
