import ImageSync.Plan.Tags
import ImageSync.Proofs.Reference.Components

/-!
# Copies stay below their root

What a copy is called is not up to the one who runs the program: the path comes from a catalog and
the tags from what a registry answers. Joined to a root, the name of any reference is the root and
then one or more names that entries can have, so the place of the copy lies below the root.

## Main definitions

* `Destination.stem`: what a name is put behind.
* `Destination.IsBelow`: a location that is a root and names behind it.
* `Destination.StaysBelow`: the copies of a reference lie below the root.

## Main statements

* `Destination.joinChars_eq`: a name is joined to a root by putting it behind the stem.
* `Destination.staysBelow`: every well-formed reference stays below every root.
* `Destination.join_below_root`: the same for what is read and for what a registry lists.
-/

namespace ImageSync.Destination

open Text
open Text.Utf8 (Piece)

/-- What a name is put behind: the root without slashes at its end and one slash, or nothing if
there is no root. -/
def stem (root : List Char) : List Char :=
  if root.isEmpty then [] else trimEnd (fun c => c == '/') root ++ ['/']

theorem joinChars_eq (root : List Char) {name : List Char} (hname : name ≠ [])
    (hhead : name.head? ≠ some '/') : joinChars root name = stem root ++ name := by
  obtain ⟨c, cs, rfl⟩ := List.exists_cons_of_ne_nil hname
  have hc : c ≠ '/' := by simpa using hhead
  unfold joinChars stem
  by_cases hroot : root.isEmpty <;> simp [hroot, hc]

/-- The stem as it stands in a path: a root that is not empty, its slashes at the end apart. -/
theorem exists_stem {root : List Char} (hroot : root ≠ []) :
    ∃ front rest, root.map Piece.char = front ++ rest ∧ (∀ c ∈ rest, c = Path.slash) ∧
      (stem root).map Piece.char = front ++ [Path.slash] := by
  obtain ⟨rest, hrest, hslashes⟩ := exists_trimEnd (fun c => c == '/') root
  have hslash : ∀ c ∈ rest.map Piece.char, c = Path.slash := by
    intro c hc
    obtain ⟨d, hd, rfl⟩ := List.mem_map.1 hc
    have hd : d = '/' := by simpa using hslashes d hd
    rw [hd]
    rfl
  refine ⟨(trimEnd (fun c => c == '/') root).map Piece.char, rest.map Piece.char, ?_, hslash, ?_⟩
  · rw [← List.map_append, ← hrest]
  · simp [stem, hroot, Path.slash]

theorem segments_append_slashes (p : Path) {rest : Path} (h : ∀ c ∈ rest, c = Path.slash) :
    Path.segments (p ++ rest) = Path.segments p := by
  induction rest generalizing p with
  | nil => rw [List.append_nil]
  | cons c rest ih =>
      have hc : c = Path.slash := h c List.mem_cons_self
      have hrest := ih (p ++ [Path.slash]) fun d hd => h d (List.mem_cons_of_mem c hd)
      rw [hc, ← List.singleton_append, ← List.append_assoc, hrest, Path.segments_append_cons,
        Path.segments_nil, List.append_nil]

/-- Behind the stem a path goes on where the root ends. -/
theorem segments_stem_append (root : List Char) (p : Path) :
    Path.segments ((stem root).map Piece.char ++ p) =
      Path.segments (root.map Piece.char) ++ Path.segments p := by
  by_cases hroot : root = []
  · rw [hroot]
    rfl
  · obtain ⟨front, rest, hfront, hslashes, hstem⟩ := exists_stem hroot
    rw [hstem, hfront, List.append_assoc, List.singleton_append, Path.segments_append_cons,
      segments_append_slashes front hslashes]

theorem isAbsolute_stem_append {root : List Char} (hroot : root ≠ []) (p : Path) :
    Path.isAbsolute ((stem root).map Piece.char ++ p) = Path.isAbsolute (root.map Piece.char) := by
  obtain ⟨front, rest, hfront, hslashes, hstem⟩ := exists_stem hroot
  rw [hstem, hfront]
  cases front with
  | cons c front => rfl
  | nil =>
      -- the root has nothing but slashes
      cases rest with
      | nil => exact absurd (List.map_eq_nil_iff.1 hfront) hroot
      | cons c rest =>
          rw [hslashes c List.mem_cons_self]
          rfl

/-! ## Locations below a root -/

/-- A location that is a root and, behind it, names that entries can have. -/
structure IsBelow (root location : String) (ns : List Name) : Prop where
  ne_nil : ns ≠ []
  isProper : ∀ n ∈ ns, Path.IsProper n
  ofString_eq :
    Path.ofString location = (stem root.toList).map Piece.char ++ joinWith Path.slash ns
  segments_eq : Path.segments (Path.ofString location) = Path.segments (Path.ofString root) ++ ns
  isAbsolute_eq : Path.isAbsolute (Path.ofString location) = Path.isAbsolute (Path.ofString root)

/-- Joined to a root, a name that is spelled from such names lies below it. -/
theorem isBelow_join (root : String) {name : String} {ns : List Name} (hne : ns ≠ [])
    (hproper : ∀ n ∈ ns, Path.IsProper n) (hname : Path.ofString name = joinWith Path.slash ns) :
    IsBelow root (join root name) ns := by
  have hplain : ∀ n ∈ ns, n ≠ [] ∧ Path.slash ∉ n := fun n hn =>
    ⟨(hproper n hn).ne_nil, (hproper n hn).slash_notMem⟩
  have hsegments := Path.segments_joinWith hplain
  have hrelative := Path.isAbsolute_joinWith hplain
  have hnil : name.toList ≠ [] := by
    intro hnil
    rw [← hname, Path.ofString, hnil] at hsegments
    exact hne hsegments.symm
  have hhead : name.toList.head? ≠ some '/' := by
    intro hhead
    rw [← hname, Path.isAbsolute, Path.ofString, List.head?_map, hhead] at hrelative
    exact absurd hrelative (by decide)
  have hjoin : Path.ofString (join root name) =
      (stem root.toList).map Piece.char ++ joinWith Path.slash ns := by
    rw [← hname, join, joinChars_eq _ hnil hhead, Path.ofString, Path.ofString,
      String.toList_ofList, List.map_append]
  refine ⟨hne, hproper, hjoin, ?_, ?_⟩
  · rw [hjoin, segments_stem_append, hsegments, Path.ofString]
  · rw [hjoin]
    by_cases hroot : root.toList = []
    · rw [hroot, Path.ofString, hroot]
      exact hrelative
    · exact isAbsolute_stem_append hroot _

/-- The copies of a reference lie below a root: a scoped one at the names of its full name, any
other at the last of them. -/
structure StaysBelow (root : String) (base : Option Path) (r : Reference) : Prop where
  whole : IsBelow root (join root (nameOf (.inRegistry r) base true)) r.components
  last : ∃ last, r.components.getLast? = some last ∧
    IsBelow root (join root (nameOf (.inRegistry r) base false)) [last]

theorem isBelow_join_text (root : String) {r : Reference} (h : r.WellFormed) :
    IsBelow root (join root r.text) r.components :=
  isBelow_join root (Reference.components_ne_nil h) (Reference.isProper_of_mem_components h)
    (Reference.joinWith_components h).symm

/-- The full name of a reference behind a root. -/
theorem toList_join_text (root : String) {r : Reference} (h : r.WellFormed) :
    (join root r.text).toList = stem root.toList ++ r.text.toList := by
  have hjoin := (isBelow_join_text root h).ofString_eq
  rw [Reference.joinWith_components h, Path.ofString, Path.ofString, ← List.map_append] at hjoin
  exact Reference.map_char_injective _ _ hjoin

theorem staysBelow (root : String) (base : Option Path) {r : Reference} (h : r.WellFormed) :
    StaysBelow root base r := by
  let last := (lastComponent r.text.toList).map Piece.char
  have hlast : r.components.getLast? = some last := by
    rw [Reference.components_eq h, List.getLast?_map, Reference.lastComponent_text h]
    rfl
  have hproper : Path.IsProper last :=
    Reference.isProper_of_mem_components h last (List.mem_of_getLast? hlast)
  refine ⟨isBelow_join_text root h, last, hlast, isBelow_join root (by simp) (by simpa) ?_⟩
  simp [nameOf, Path.ofString, joinWith, last]

end ImageSync.Destination

namespace ImageSync

variable {σ : Type}

/-! ## What a registry lists -/

theorem Work.of_run_bind_eq_some {α β : Type} {x : Work σ α} {f : α → Work σ β} {cut : Option Nat}
    {w w' : World σ} {b : β} (h : (x >>= f).run cut w = (some b, w')) :
    ∃ a w₁, x.run cut w = (some a, w₁) ∧ (f a).run cut w₁ = (some b, w') := by
  rw [run_bind] at h
  match hx : x.run cut w with
  | (some a, w₁) => exact ⟨a, w₁, rfl, by rwa [hx] at h⟩
  | (none, w₁) =>
      rw [hx] at h
      cases h

theorem withTag_of_mem_taggedReferences {repository : Reference} {tags : List String}
    {cut : Option Nat} {w w' : World σ} {rs : List Reference}
    (h : (taggedReferences repository tags).run cut w = (some (.ok rs), w')) :
    ∀ r ∈ rs, ∃ tag ∈ tags, repository.withTag tag = .ok r := by
  induction tags generalizing rs w w' with
  | nil =>
      cases h
      simp
  | cons tag tags ih =>
      rw [taggedReferences] at h
      cases htag : repository.withTag tag with
      | error e =>
          rw [htag] at h
          obtain ⟨-, -, -, h⟩ := Work.of_run_bind_eq_some h
          cases h
      | ok r =>
          rw [htag] at h
          obtain ⟨result, w₁, hrest, h⟩ := Work.of_run_bind_eq_some h
          cases result with
          | error e => cases h
          | ok rest =>
              cases h
              intro r' hr'
              rcases List.mem_cons.1 hr' with rfl | hr'
              · exact ⟨tag, List.mem_cons_self, htag⟩
              · obtain ⟨tag', hmem, htag'⟩ := ih hrest r' hr'
                exact ⟨tag', List.mem_cons_of_mem tag hmem, htag'⟩

/-- Whatever a registry answers, what it lists comes from the repository by putting tags on it. -/
theorem derived_of_mem_listImages {s : Services σ} {access : Access} {repository : Reference}
    (hrepository : Reference.Derived repository) {cut : Option Nat} {w w' : World σ}
    {rs : List Reference}
    (h : (listImages s access repository).run cut w = (some (.ok rs), w')) :
    ∀ r ∈ rs, Reference.Derived r := by
  obtain ⟨-, w₁, -, h⟩ := Work.of_run_bind_eq_some h
  obtain ⟨result, w₂, -, h⟩ := Work.of_run_bind_eq_some h
  cases result with
  | ok tags =>
      intro r hr
      obtain ⟨tag, -, htag⟩ := withTag_of_mem_taggedReferences h r hr
      exact .withTag hrepository htag
  | error e =>
      dsimp only at h
      split at h
      · obtain ⟨-, -, -, h⟩ := Work.of_run_bind_eq_some h
        cases h
        simp
      · cases h

/-- No reference leads out of a root. Joined to the root, its name is the root and then one or more
names that entries can have, and exactly one if copies are not scoped. That holds of what comes from
reading a text and from steps, so of whatever a registry lists. -/
theorem Destination.join_below_root (root : String) (base : Option Path) :
    (∀ r, Reference.Derived r → StaysBelow root base r) ∧
      ∀ {σ : Type} (s : Services σ) (access : Access) (repository : Reference) (cut : Option Nat)
        (w w' : World σ) (rs : List Reference), Reference.Derived repository →
        (listImages s access repository).run cut w = (some (.ok rs), w') →
        ∀ r ∈ rs, StaysBelow root base r :=
  ⟨fun _ h => staysBelow root base h.wellFormed, fun _ _ _ _ _ _ _ hrepository h r hr =>
    staysBelow root base (derived_of_mem_listImages hrepository h r hr).wellFormed⟩

namespace OddTags

/-- A registry that lists a tag of dots and an underscore. -/
def services : Services Unit where
  listTags := fun _ _ _ state => ({ result := .ok ["v1", "_.."] }, state)
  copy := fun _ tree state => ({ result := .ok () }, tree, state)
  pattern := fun _ => .ok fun _ => true

def world : World Unit := { now := 0, tree := .empty, journal := [], services := () }

def repository : Reference := ⟨"quay.io", "team/app", none, none⟩

end OddTags

open OddTags in
theorem Destination.join_below_root_odd_tag :
    let r : Reference := { repository with tag := some "_.." }
    Reference.Derived repository ∧
      (∃ w', (listImages services {} repository).run none world =
        (some (.ok [{ repository with tag := some "v1" }, r]), w')) ∧
      join "out/" (nameOf (.inRegistry r) none false) = "out/app:_.." ∧
      StaysBelow "out/" none r := by
  intro r
  have hparse : Reference.parse "quay.io/team/app" = .ok repository :=
    Reference.eq_ok_of_toOption (by decide +kernel)
  have hlisted : ∃ w', (listImages services {} repository).run none world =
      (some (.ok [{ repository with tag := some "v1" }, r]), w') := by
    refine ⟨_, Prod.ext (Option.some_inj.2 ?_) rfl⟩
    exact Reference.eq_ok_of_toOption (by decide +kernel)
  obtain ⟨w', hrun⟩ := hlisted
  exact ⟨.parsed hparse, ⟨w', hrun⟩, by decide +kernel,
    (join_below_root "out/" none).2 services {} repository none world w' _ (.parsed hparse) hrun r
      (by simp)⟩

end ImageSync
