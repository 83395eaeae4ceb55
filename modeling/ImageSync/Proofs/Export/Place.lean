import ImageSync.Proofs.Destination.Below
import ImageSync.Proofs.Files.Absolute

/-!
# The places of exported images

An export puts an image at the path that is joined from its root and the full name of the reference.
Seen from the root, the path is that name again.

## Main statements

* `Destination.segments_join`: the names of the joined path are those of the root and the reference.
* `Destination.nameOf_inFolder`: the name of an exported image directory.
-/

namespace ImageSync.Destination

open Text
open Text.Utf8 (Piece)

variable {root : String} {r : Reference}

/-! ## Joined paths -/

/-- The names of the path of an exported image are those of the root and of its full name. -/
theorem segments_join (root : String) (h : r.WellFormed) :
    Path.segments (Path.ofString (join root r.text)) =
      Path.segments (Path.ofString root) ++ r.components :=
  (isBelow_join_text root h).segments_eq

theorem names_join_text (root : String) (h : r.WellFormed) :
    Path.names (Path.ofString (join root r.text)) =
      Path.names (Path.ofString root) ++ r.components := by
  have hclean : r.components.filter (fun n => n ≠ Path.hereName) = r.components :=
    List.filter_eq_self.2 fun n hn => by
      simpa using (Reference.isProper_of_mem_components h n hn).ne_here
  rw [Path.names, segments_join root h, List.filter_append, hclean, Path.names]

theorem isAbsolute_join (h : r.WellFormed) :
    Path.isAbsolute (Path.ofString (join root r.text)) = Path.isAbsolute (Path.ofString root) :=
  (isBelow_join_text root h).isAbsolute_eq

theorem nul_notMem_join (h : r.WellFormed) (hnul : Path.nul ∉ Path.ofString root) :
    Path.nul ∉ Path.ofString (join root r.text) := by
  have hbelow := isBelow_join_text root h
  have hnames := Path.nul_notMem_joinWith fun n hn => (hbelow.isProper n hn).nul_notMem
  rw [hbelow.ofString_eq, List.mem_append, not_or]
  refine ⟨?_, hnames⟩
  by_cases hroot : root.toList = []
  · simp [hroot, stem]
  · obtain ⟨front, rest, hfront, -, hstem⟩ := exists_stem hroot
    rw [Path.ofString, hfront, List.mem_append, not_or] at hnul
    simp [hstem, hnul.1]

/-! ## Names of image directories -/

variable {base q : Path} {ns : List Name}

/-- The name of a directory whose path goes on behind the base with names that entries can have. -/
theorem folderName_of_steps (hbase : Path.steps base ≠ [])
    (hq : Path.steps q = Path.steps base ++ ns.map .name) (hns : ∀ n ∈ ns, Path.IsProper n) :
    folderName q (some base) =
      if ns = [] then (Path.lastName? base).getD [] else joinWith Path.slash ns := by
  rw [folderName, Path.relativeTo?_of_steps hbase hq]
  cases ns with
  | nil => rfl
  | cons n ns =>
      obtain ⟨c, rest, hrest⟩ : ∃ c rest, joinWith Path.slash (n :: ns) = c :: rest := by
        obtain ⟨c, n, rfl⟩ := List.exists_cons_of_ne_nil (hns n List.mem_cons_self).ne_nil
        cases ns with
        | nil => exact ⟨c, n, rfl⟩
        | cons m ns => exact ⟨c, _, rfl⟩
      rw [if_neg (by simp), hrest]

/-- An image directory whose path goes on behind the base with the names of a reference is named
after this reference. -/
theorem nameOf_inFolder (h : r.WellFormed) (hbase : Path.steps base ≠ [])
    (hq : Path.steps q = Path.steps base ++ r.components.map .name) (isScoped : Bool) :
    nameOf (.inFolder q) (some base) isScoped = nameOf (.inRegistry r) none isScoped := by
  have hfolder : folderName q (some base) = Path.ofString r.text := by
    rw [folderName_of_steps hbase hq (Reference.isProper_of_mem_components h),
      if_neg (Reference.components_ne_nil h), Reference.joinWith_components h]
  rw [nameOf, nameOf]
  simp only [hfolder, Path.shown_ofString]

end ImageSync.Destination
