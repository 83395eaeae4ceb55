import ImageSync.Proofs.Destination.Below
import ImageSync.Proofs.Reference.Nested

/-!
# Copies in another registry

A scoped copy keeps the whole name of its source: the full name is put behind a root and the text is
read as a reference. Reading completes short texts, but at their front, so different sources have
different copies below every root. Not every source has one: its host becomes a component of a path,
and a component has neither a port nor capital letters.

## Main definitions

* `Destination.IsRegistryRoot`: the roots that name a registry or a repository in one.

## Main statements

* `Destination.prepare_scoped_injective`: copies of different sources are different.
* `Destination.prepare_scoped_below_registry`: what becomes of a source below a registry.
-/

namespace ImageSync.Destination

open Text

variable {root : String} {r : Reference} {image : Image}

theorem of_prepare_registry {t t' : FileTree} {location : String}
    (h : prepare t location .registry = (.ok image, t')) :
    ∃ r, Reference.parse location = .ok r ∧ image = .inRegistry r := by
  simp only [prepare] at h
  cases hparse : Reference.parse location with
  | error e => simp [hparse] at h
  | ok r =>
      rw [hparse] at h
      exact ⟨r, rfl, by cases h; rfl⟩

/-- The full name of the copy is that of its source behind something that depends on the root. -/
theorem exists_text_copy (root : String) : ∃ front : List Char, ∀ {s r : Reference}, s.WellFormed →
    Reference.parse (join root s.text) = .ok r → r.text.toList = front ++ s.text.toList := by
  by_cases hroot : stem root.toList = []
  · refine ⟨[], fun {s r} h hparse => ?_⟩
    have hjoin : join root s.text = s.text := by
      rw [← String.toList_inj, toList_join_text root h, hroot, List.nil_append]
    rw [hjoin, Reference.parse_text h, Except.ok.injEq] at hparse
    rw [hparse, List.nil_append]
  · have hslash : '/' ∈ stem root.toList := by
      unfold stem at hroot ⊢
      split
      · simp_all
      · simp
    obtain ⟨before, hbefore⟩ := Reference.exists_completion hslash
    refine ⟨before, fun {s r} h hparse => ?_⟩
    rw [Reference.text_of_parse hparse, toList_join_text root h]
    exact hbefore s.text.toList (Reference.slash_mem_text s)

/-- Scoped copies in registries are called after their sources: behind something that depends on the
root alone stands the full name of the source. So the copies of different sources are different. -/
theorem prepare_scoped_injective (root : String) :
    (∃ front : List Char, ∀ (base : Option Path) (s : Reference), Reference.Derived s →
      ∀ (t t' : FileTree) (image : Image),
        prepare t (join root (nameOf (.inRegistry s) base true)) .registry = (.ok image, t') →
        ∃ r, image = .inRegistry r ∧ r.text.toList = front ++ s.text.toList) ∧
      ∀ (base₁ base₂ : Option Path) (s₁ s₂ : Reference), Reference.Derived s₁ →
        Reference.Derived s₂ → s₁ ≠ s₂ → ∀ (t₁ t₁' t₂ t₂' : FileTree) (image₁ image₂ : Image),
        prepare t₁ (join root (nameOf (.inRegistry s₁) base₁ true)) .registry = (.ok image₁, t₁') →
        prepare t₂ (join root (nameOf (.inRegistry s₂) base₂ true)) .registry = (.ok image₂, t₂') →
        image₁ ≠ image₂ := by
  obtain ⟨front, hfront⟩ := exists_text_copy root
  have hcopy : ∀ (base : Option Path) (s : Reference), Reference.Derived s →
      ∀ (t t' : FileTree) (image : Image),
        prepare t (join root (nameOf (.inRegistry s) base true)) .registry = (.ok image, t') →
        ∃ r, image = .inRegistry r ∧ r.text.toList = front ++ s.text.toList := by
    intro base s hs t t' image h
    obtain ⟨r, hparse, rfl⟩ := of_prepare_registry h
    exact ⟨r, rfl, hfront hs.wellFormed hparse⟩
  refine ⟨⟨front, hcopy⟩, fun base₁ base₂ s₁ s₂ hs₁ hs₂ hne t₁ t₁' t₂ t₂' image₁ image₂ h₁ h₂ => ?_⟩
  obtain ⟨r₁, rfl, htext₁⟩ := hcopy base₁ s₁ hs₁ t₁ t₁' image₁ h₁
  obtain ⟨r₂, rfl, htext₂⟩ := hcopy base₂ s₂ hs₂ t₂ t₂' image₂ h₂
  intro heq
  rw [Image.inRegistry.injEq] at heq
  rw [heq, htext₂, List.append_right_inj, String.toList_inj] at htext₁
  have hparse := Reference.parse_text hs₁.wellFormed
  rw [← htext₁, Reference.parse_text hs₂.wellFormed] at hparse
  exact hne (Except.ok.inj hparse).symm

/-- Two sources of one path and tag below a root that is no registry. -/
theorem prepare_scoped_injective_word :
    let s₁ : Reference := ⟨"quay.io", "library/app", some "v1", none⟩
    let s₂ : Reference := ⟨"docker.io", "library/app", some "v1", none⟩
    let t : FileTree := .empty
    ∃ image₁ image₂,
      prepare t (join "mirror" (nameOf (.inRegistry s₁) none true)) .registry = (.ok image₁, t) ∧
      prepare t (join "mirror" (nameOf (.inRegistry s₂) none true)) .registry = (.ok image₂, t) ∧
      image₁ ≠ image₂ := by
  intro s₁ s₂ t
  have hs₁ : Reference.parse "quay.io/library/app:v1" = .ok s₁ :=
    Reference.eq_ok_of_toOption (by decide +kernel)
  have hs₂ : Reference.parse "app:v1" = .ok s₂ := Reference.eq_ok_of_toOption (by decide +kernel)
  have hcopy₁ :
      prepare t (join "mirror" (nameOf (.inRegistry s₁) none true)) .registry =
        (.ok (.inRegistry ⟨"docker.io", "mirror/quay.io/library/app", some "v1", none⟩), t) :=
    Prod.ext (Reference.eq_ok_of_toOption (by decide +kernel)) (prepare_registry_tree t _)
  have hcopy₂ :
      prepare t (join "mirror" (nameOf (.inRegistry s₂) none true)) .registry =
        (.ok (.inRegistry ⟨"docker.io", "mirror/docker.io/library/app", some "v1", none⟩), t) :=
    Prod.ext (Reference.eq_ok_of_toOption (by decide +kernel)) (prepare_registry_tree t _)
  exact ⟨_, _, hcopy₁, hcopy₂, (prepare_scoped_injective "mirror").2 none none s₁ s₂ (.parsed hs₁)
    (.parsed hs₂) (by decide) t t t t _ _ hcopy₁ hcopy₂⟩

/-! ## Below a registry -/

/-- The roots that name a registry, or a repository in one: with the host and with what a name is
put behind on it. -/
inductive IsRegistryRoot : String → List Char → List Char → Prop
  | registry {host : List Char} (hvalid : Reference.isHost host = true)
      (hlooks : Reference.looksLikeHost host = true) : IsRegistryRoot (String.ofList host) host []
  | repository {host path : List Char} (hvalid : Reference.isHost host = true)
      (hlooks : Reference.looksLikeHost host = true) (hpath : Reference.isPath path = true) :
      IsRegistryRoot (String.ofList (host ++ '/' :: path)) host (path ++ ['/'])

theorem stem_eq {root : List Char} (hne : root ≠ []) (hend : root.getLast? ≠ some '/') :
    stem root = root ++ ['/'] := by
  have htrim : trimEnd (fun c => c == '/') root = root := by
    refine trimEnd_eq_self fun c hc => ?_
    simp only [beq_eq_false_iff_ne]
    rintro rfl
    exact hend hc
  simp [stem, hne, htrim]

theorem getLast?_ne_of_isPath {path : List Char} (h : Reference.isPath path = true) :
    path.getLast? ≠ some '/' := by
  intro hlast
  obtain ⟨init, rfl⟩ := List.getLast?_eq_some_iff.1 hlast
  rw [Reference.isPath_append_slash] at h
  exact absurd (Bool.and_eq_true_iff.1 h).2 (by decide)

namespace IsRegistryRoot

variable {host front : List Char}

theorem isHost (h : IsRegistryRoot root host front) : Reference.isHost host = true := by
  cases h <;> assumption

theorem looksLikeHost (h : IsRegistryRoot root host front) :
    Reference.looksLikeHost host = true := by
  cases h <;> assumption

theorem isFront (h : IsRegistryRoot root host front) : Reference.IsFront front := by
  cases h with
  | registry hvalid hlooks => exact .inl rfl
  | repository hvalid hlooks hpath => exact .inr ⟨_, hpath, rfl⟩

theorem stem_eq (h : IsRegistryRoot root host front) :
    stem root.toList = host ++ '/' :: front := by
  have hne : host ≠ [] := (Reference.ne_of_isHost h.isHost).1
  have hslash : '/' ∉ host := Reference.slash_notMem_of_isHost h.isHost
  cases h with
  | registry hvalid hlooks =>
      rw [String.toList_ofList,
        Destination.stem_eq hne fun hend => hslash (List.mem_of_getLast? hend)]
  | @repository host path hvalid hlooks hpath =>
      have hend : (host ++ '/' :: path).getLast? ≠ some '/' := by
        obtain ⟨init, c, rfl⟩ :=
          (List.eq_nil_or_concat path).resolve_left (Reference.ne_nil_of_isPath hpath)
        simpa [List.getLast?_cons] using getLast?_ne_of_isPath hpath
      rw [String.toList_ofList, Destination.stem_eq (by simp) hend]
      simp

end IsRegistryRoot

/-- Below a registry, or a repository in one, a source has a scoped copy if its host has no port and
no capital letters, as long as the name of the copy is not too long. The copy keeps tag and digest.
Otherwise the location is refused, by its capital letters first and then by its form. -/
theorem prepare_scoped_below_registry {host front : List Char}
    (hroot : IsRegistryRoot root host front) (hr : Reference.Derived r) (base : Option Path)
    (t : FileTree) :
    let location := join root (nameOf (.inRegistry r) base true)
    let copy := Reference.nested host front r
    prepare t location .registry =
      (if r.host.toList.any Char.isUpper then .error (.reference (.upperCase location))
        else if ':' ∈ r.host.toList then .error (.reference (.malformed location))
        else if Reference.maxNameLength < Utf8.size copy.name.toList then
          .error (.reference (.tooLong location))
        else .ok (.inRegistry copy), t) := by
  intro location copy
  have hinput : location.toList = host ++ '/' :: (front ++ r.text.toList) := by
    have hjoin := toList_join_text root hr.wellFormed
    rw [hroot.stem_eq, List.append_assoc] at hjoin
    exact hjoin
  rw [prepare, Reference.parse_nested hroot.isHost hroot.looksLikeHost hroot.isFront hr.wellFormed
    hinput]
  by_cases hcapital : r.host.toList.any Char.isUpper = true
  · simp only [if_pos hcapital]
  by_cases hcolon : ':' ∈ r.host.toList
  · simp only [if_neg hcapital, if_pos hcolon]
  by_cases hsize : Reference.maxNameLength < Utf8.size copy.name.toList
  · simp only [if_neg hcapital, if_neg hcolon, copy, if_pos hsize]
  · simp only [if_neg hcapital, if_neg hcolon, copy, if_neg hsize]

/-- A source with a digest below a repository of the default registry, under its older name. -/
theorem prepare_scoped_below_registry_digest :
    let digest : Digest := ⟨"sha256", String.ofList (List.replicate 64 'a')⟩
    let r : Reference := ⟨"quay.io", "team/app", none, some digest⟩
    let t : FileTree := .empty
    prepare t (join "index.docker.io/mirror" (nameOf (.inRegistry r) none true)) .registry =
      (.ok (.inRegistry ⟨"docker.io", "mirror/quay.io/team/app", none, some digest⟩), t) := by
  intro digest r t
  have hr : Reference.parse r.text = .ok r := Reference.eq_ok_of_toOption (by decide +kernel)
  have hroot : IsRegistryRoot "index.docker.io/mirror" "index.docker.io".toList
      ("mirror".toList ++ ['/']) := by
    have hjoined : String.ofList ("index.docker.io".toList ++ '/' :: "mirror".toList) =
        "index.docker.io/mirror" := by decide
    rw [← hjoined]
    exact .repository (by decide +kernel) (by decide) (by decide +kernel)
  have hcopy := prepare_scoped_below_registry hroot (.parsed hr) none t
  have hname : Reference.nested "index.docker.io".toList ("mirror".toList ++ ['/']) r =
      ⟨"docker.io", "mirror/quay.io/team/app", none, some digest⟩ := by decide +kernel
  rw [hname] at hcopy
  have hlower : ¬r.host.toList.any Char.isUpper = true := by decide
  have hcolon : ':' ∉ r.host.toList := by decide
  have hsize : ¬Reference.maxNameLength <
      Utf8.size (Reference.name ⟨"docker.io", "mirror/quay.io/team/app", none, none⟩).toList := by
    decide +kernel
  exact hcopy.trans
    (congrArg (·, t) ((if_neg hlower).trans ((if_neg hcolon).trans (if_neg hsize))))

/-- Sources on registries with a port or a capital letter have no scoped copies below another
registry, short as their names are. -/
theorem prepare_scoped_refused :
    let withPort : Reference := ⟨"localhost:5000", "team/app", some "v1", none⟩
    let withCapital : Reference := ⟨"registryA", "team/app", some "v1", none⟩
    let copy (r : Reference) : Except SyncError Image :=
      (prepare .empty (join "mirror.io" (nameOf (.inRegistry r) none true)) .registry).1
    (Reference.parse "localhost:5000/team/app:v1").toOption = some withPort ∧
      (Reference.parse "registryA/team/app:v1").toOption = some withCapital ∧
      Reference.isHost "mirror.io".toList = true ∧
      Reference.looksLikeHost "mirror.io".toList = true ∧
      Utf8.size "mirror.io/localhost:5000/team/app".toList ≤ Reference.maxNameLength ∧
      (copy withPort).toOption = none ∧ (copy withCapital).toOption = none := by
  decide +kernel

end ImageSync.Destination
