import ImageSync.Proofs.Plan.Folder
import ImageSync.Proofs.Plan.Hosts
import ImageSync.Proofs.Plan.Registry
import ImageSync.Proofs.Reference.Spelling
import ImageSync.Proofs.Run.Turns

/-!
# How the images of a plan are addressed

An image in a registry is addressed by a tag or by a digest. Whatever a catalog declares and
whatever is listed is addressed by one of them, since putting the one on a repository drops the
other. A source that names an image is planned as it was read. So a source with a tag and a digest
is planned with both, and there is no other image in a plan that has both.

## Main definitions

* `Reference.IsAddressed r`: whether a reference has a tag or a digest, and not both.
* `Spelling.HasBoth p`: whether a tag and a digest were written.
* `Plan.IsAddressedFor source transport plan`: whether the images of a plan are addressed as its
  source allows.

## Main statements

* `Expansion.Followed.isAddressed`: the images of one line of a catalog.
* `Plan.OfAnswer.isAddressed`: the images of a repository.
* `Plan.resolve_addressed`: the images of every plan.
* `Plan.resolve_addressed_twice`: a plan of an image with a tag and a digest.
-/

namespace ImageSync

variable {σ : Type}

/-- Whether a reference is addressed by exactly one of a tag and a digest. -/
def Reference.IsAddressed (r : Reference) : Prop :=
  (∃ tag, r.tag = some tag ∧ r.digest = none) ∨ ∃ digest, r.tag = none ∧ r.digest = some digest

instance (r : Reference) : Decidable r.IsAddressed :=
  decidable_of_iff (r.tag.isSome ≠ r.digest.isSome) <| by
    cases htag : r.tag <;> cases hdigest : r.digest <;> simp [Reference.IsAddressed, htag, hdigest]

/-- Whether a reference was written with a tag and a digest. -/
def Spelling.HasBoth (p : Spelling) : Prop :=
  ∃ tag digest, p.tag = some tag ∧ p.digest = some digest

/-! ## One image -/

namespace Meaning

theorem isAddressed_tagged (repository : Reference) (tag : String) :
    (tagged repository tag).IsAddressed :=
  .inl ⟨tag, rfl, rfl⟩

/-- A declared image is addressed by the digest or by the tag that its text is. -/
theorem isAddressed_of_pinned? {parsed r : Reference} {text : String}
    (h : pinned? parsed text = some r) : r.IsAddressed := by
  rw [pinned?] at h
  split at h
  · next digest _ =>
    cases h
    exact .inr ⟨digest, rfl, rfl⟩
  · split at h <;> cases h
    exact isAddressed_tagged parsed text

end Meaning

/-- A spelling with a tag and a digest means an image that has both. -/
theorem Spelling.HasBoth.not_isAddressed {p : Spelling} (h : p.HasBoth) :
    ¬p.reference.IsAddressed := by
  obtain ⟨tag, digest, htag, hdigest⟩ := h
  rintro (⟨-, -, hnone⟩ | ⟨-, hnone, -⟩)
  · cases hnone.symm.trans hdigest
  · cases hnone.symm.trans htag

/-- A text that spells a tag and a digest is read. -/
theorem Spelling.HasBoth.parse_eq {p : Spelling} {source : String} (h : p.HasBoth)
    (hspells : p.Spells source) : Reference.parse source = .ok p.reference := by
  obtain ⟨tag, digest, htag, hdigest⟩ := h
  have hat : '@' ∈ source.toList := by
    rw [← hspells.text_eq, toList_text]
    simp [Reference.suffix, reference, hdigest]
  exact hspells.parse_eq (Reference.isHex64_of_mem (by decide) hat)

/-- An image that was read is addressed by one of a tag and a digest, unless both were written. -/
theorem Reference.isAddressed_or_of_parse {source : String} {r : Reference}
    (h : parse source = .ok r) (himage : r.isRepository = false) :
    r.IsAddressed ∨ ∃ p : Spelling, p.Spells source ∧ p.HasBoth ∧ r = p.reference := by
  cases htag : r.tag with
  | none =>
      cases hdigest : r.digest with
      | none => simp [isRepository, htag, hdigest] at himage
      | some digest => exact .inl (.inr ⟨digest, htag, hdigest⟩)
  | some tag =>
      cases hdigest : r.digest with
      | none => exact .inl (.inl ⟨tag, htag, hdigest⟩)
      | some digest =>
          obtain ⟨p, hspells, rfl⟩ := Spelling.exists_of_parse h
          exact .inr ⟨p, hspells, ⟨tag, digest, htag, hdigest⟩, rfl⟩

/-! ## Plans without a cut -/

/-- The images of a line of a catalog. -/
theorem Expansion.Followed.isAddressed {s : Services σ} {base : Access} {line : Catalog.Line}
    {b : Batch} {happened : List Happening} (h : Followed s base line (some b) happened)
    {r : Reference} (hr : .inRegistry r ∈ b.images) : r.IsAddressed := by
  obtain ⟨repository, parsed, images, -, -, -, rfl, -, hfrom⟩ := h.of_some
  obtain ⟨r', hr', himage⟩ := List.mem_map.1 hr
  cases himage
  rcases hfrom with ⟨texts, -, rfl⟩ | ⟨tags, -, -, hsublist⟩
  · obtain ⟨text, -, hpinned⟩ := List.mem_filterMap.1 hr'
    exact Meaning.isAddressed_of_pinned? hpinned
  · obtain ⟨tag, -, rfl⟩ := List.mem_map.1 (hsublist.subset hr')
    exact Meaning.isAddressed_tagged parsed tag

/-- The images of a repository that was asked for its tags. -/
theorem Plan.OfAnswer.isAddressed {source : String} {access : Access} {repository : Reference}
    {answer : Except RegistryError (List String)} {plan : Plan}
    (h : OfAnswer source access repository answer (.ok plan)) {r : Reference}
    (hr : .inRegistry r ∈ plan.images) : r.IsAddressed := by
  generalize hresult : Except.ok plan = result at h
  cases h with
  | @planned tags references plan' hne htags hplan =>
      cases hresult
      have hmem : Except.ok r ∈ tags.map repository.withTag := by
        rw [htags]
        simpa [images, hplan] using hr
      obtain ⟨tag, -, htag⟩ := List.mem_map.1 hmem
      obtain ⟨-, rfl⟩ := Reference.withTag_eq_ok_iff.1 htag
      exact .inl ⟨tag, rfl, rfl⟩
  | badTag hfront htag => cases hresult
  | nothing => cases hresult
  | refused text => cases hresult
  | failed h => cases hresult

namespace Plan

variable (s : Services σ) (base : Access) (source : String)

/-- A source that names an image is planned as it was read, and no cut prevents it. -/
theorem run_resolve_of_image {named : Reference} (h : Reference.parse source = .ok named)
    (himage : named.isRepository = false) (cut : Option Nat) (w : World σ) :
    ∃ plan w', (resolve s base source .registry).run cut w = (some (.ok plan), w') ∧
      plan.images = [.inRegistry named] := by
  rw [resolve, ofRegistry, h]
  simp only [himage, Bool.false_eq_true, if_false]
  rw [Work.run_bind_of_some (Work.run_report ..)]
  exact ⟨_, _, rfl, rfl⟩

/-- Whether the images of a plan are addressed as its source allows. -/
def IsAddressedFor (source : String) (transport : SourceTransport) (plan : Plan) : Prop :=
  ∀ r, .inRegistry r ∈ plan.images → r.IsAddressed ∨
    transport = .registry ∧ plan.images = [.inRegistry r] ∧
      ∃ p : Spelling, p.Spells source ∧ p.HasBoth ∧ r = p.reference

theorem isAddressedFor_of_registry {w w' : World σ} {plan : Plan}
    (h : (resolve s base source .registry).run none w = (some (.ok plan), w')) :
    plan.IsAddressedFor source .registry := by
  intro r hr
  cases hparse : Reference.parse source with
  | error e =>
      cases h.symm.trans (run_ofRegistry_of_error s base source hparse w)
  | ok named =>
      cases hrepository : named.isRepository with
      | true =>
          obtain ⟨result, w₁, hrun, hanswer, -⟩ :=
            run_ofRegistry s base source hparse hrepository w
          obtain ⟨hresult, -⟩ := Prod.mk.inj (hrun.symm.trans h)
          cases hresult
          exact .inl (hanswer.isAddressed hr)
      | false =>
          obtain ⟨plan', w₁, hrun, himages⟩ :=
            run_resolve_of_image s base source hparse hrepository none w
          obtain ⟨hplan, -⟩ := Prod.mk.inj (hrun.symm.trans h)
          cases hplan
          rw [himages, List.mem_singleton] at hr
          cases hr
          rcases Reference.isAddressed_or_of_parse hparse hrepository with haddressed | hboth
          · exact .inl haddressed
          · exact .inr ⟨rfl, himages, hboth⟩

theorem isAddressedFor_of_folder {w w' : World σ} {plan : Plan}
    (h : (resolve s base source .folder).run none w = (some (.ok plan), w')) :
    plan.IsAddressedFor source .folder := by
  intro r hr
  obtain ⟨root, paths, images', -, himages, -, hplan⟩ := of_run_ofFolder h
  have hmem : .inRegistry r ∈ images' := by simpa [images, hplan] using hr
  obtain ⟨p, -, hp⟩ := exists_of_mem_mapM_ok himages hmem
  -- A directory gives an image in a directory.
  rw [Image.ofFolder] at hp
  cases habsolute : w.tree.absolute? p with
  | error e =>
      rw [habsolute] at hp
      cases hp
  | ok path =>
      rw [habsolute] at hp
      cases hp

theorem isAddressedFor_of_catalog {w w' : World σ} {plan : Plan}
    (h : (resolve s base source .catalog).run none w = (some (.ok plan), w')) :
    plan.IsAddressedFor source .catalog := by
  intro r hr
  cases hload : Catalog.load w.tree source with
  | error e =>
      rw [resolve, ofCatalog, Work.run_bind_of_some (Work.run_world none w)] at h
      simp only [hload] at h
      cases h
  | ok catalog =>
      obtain ⟨plan', w₁, happened, hrun, -, -, outcomes, -, hbatches, -, hby⟩ :=
        run_resolve_catalog s base hload
      obtain ⟨hplan, -⟩ := Prod.mk.inj (hrun.symm.trans h)
      cases hplan
      obtain ⟨b, hb, hr⟩ := List.mem_flatMap.1 hr
      rw [hbatches] at hb
      obtain ⟨o, ho, hbatch⟩ := List.mem_filterMap.1 hb
      have hfollowed : Expansion.Followed s base o.line (some b) o.happened := hbatch ▸ hby o ho
      exact .inl (hfollowed.isAddressed hr)

/-- The images of a plan are addressed as its source allows. -/
theorem isAddressedFor_of_resolve {transport : SourceTransport} {w w' : World σ} {plan : Plan}
    (h : (resolve s base source transport).run none w = (some (.ok plan), w')) :
    plan.IsAddressedFor source transport := by
  cases transport with
  | registry => exact isAddressedFor_of_registry s base source h
  | folder => exact isAddressedFor_of_folder s base source h
  | catalog => exact isAddressedFor_of_catalog s base source h

/-- A plan that comes in spite of a cut is the plan that comes without one. -/
theorem exists_run_of_cut {transport : SourceTransport} {cut : Option Nat} {w w' : World σ}
    {plan : Plan} (hcut : ∀ T ∈ cut, w.now < T)
    (h : (resolve s base source transport).run cut w = (some (.ok plan), w')) :
    ∃ w₁, (resolve s base source transport).run none w = (some (.ok plan), w₁) := by
  cases cut with
  | none => exact ⟨w', h⟩
  | some T =>
      obtain ⟨whole, w₁, happened, hrun, -, hgrows, -⟩ := leaves_resolve s base source transport w
      obtain ⟨result, w₂, seen, hrun', -, -, hresult⟩ :=
        resolve_cut s base hrun hgrows (hcut T rfl)
      obtain ⟨hsame, -⟩ := Prod.mk.inj (hrun'.symm.trans h)
      rcases hresult with hnone | hwhole
      · cases hnone.symm.trans hsame
      · exact ⟨w₁, by rw [hrun, ← hwhole, hsame]⟩

end Plan

/-! ## All plans -/

/-- The images of a plan in registries are addressed by a tag or by a digest, and not by both,
unless the source is an image in a registry that was written with both. Such an image is planned
with both. -/
theorem Plan.resolve_addressed (s : Services σ) (base : Access) (source : String)
    (transport : SourceTransport) (w : World σ) :
    (∀ cut plan w', (∀ T ∈ cut, w.now < T) →
        (resolve s base source transport).run cut w = (some (.ok plan), w') →
        ∀ r, .inRegistry r ∈ plan.images → r.IsAddressed ∨
          transport = .registry ∧ plan.images = [.inRegistry r] ∧
            ∃ p : Spelling, p.Spells source ∧ p.HasBoth ∧ r = p.reference) ∧
      ∀ p : Spelling, transport = .registry → p.Spells source → p.HasBoth →
        ¬p.reference.IsAddressed ∧ ∀ cut, ∃ plan w',
          (resolve s base source transport).run cut w = (some (.ok plan), w') ∧
            plan.images = [.inRegistry p.reference] := by
  refine ⟨fun cut plan w' hcut h => ?_, fun p htransport hspells hboth => ?_⟩
  · obtain ⟨w₁, hrun⟩ := exists_run_of_cut s base source hcut h
    exact isAddressedFor_of_resolve s base source hrun
  · subst htransport
    have hparse : Reference.parse source = .ok p.reference := hboth.parse_eq hspells
    have himage : p.reference.isRepository = false := by
      obtain ⟨tag, digest, htag, -⟩ := hboth
      simp [Reference.isRepository, Spelling.reference, htag]
    exact ⟨hboth.not_isAddressed, fun cut => run_resolve_of_image s base source hparse himage cut w⟩

namespace BothWritten

def digest : Digest :=
  ⟨"sha256", "7bd0c945d7e4cc2ce5c21d449ba07eb89c8e6c28085edbcf6f5fa4bf90e7eedc"⟩

def source : String := "quay.io/app:v1@" ++ digest.text

def image : Reference := ⟨"quay.io", "app", some "v1", some digest⟩

def world : World Unit := { now := 0, tree := .empty, journal := [], services := () }

/-- Services that refuse to list. -/
def services : Services Unit where
  listTags := fun _ _ _ state => ({ result := .error (.refused "no") }, state)
  copy := fun _ tree state => ({ result := .ok () }, tree, state)
  pattern := fun _ => .error "no pattern"

end BothWritten

open BothWritten in
/-- A source with a tag and a digest is planned with both, and the tool that copies it gets both. -/
theorem Plan.resolve_addressed_twice :
    (∃ plan w', (resolve services {} source .registry).run none world = (some (.ok plan), w') ∧
      plan.images = [.inRegistry image]) ∧
    ¬image.IsAddressed ∧ (Image.inRegistry image).text = "docker://" ++ source := by
  have hparse : Reference.parse source = .ok image :=
    Reference.eq_ok_of_toOption (by decide +kernel)
  exact ⟨run_resolve_of_image services {} source hparse rfl none world, by decide,
    by decide +kernel⟩

end ImageSync
