import ImageSync.Plan.Resolve
import ImageSync.Proofs.Catalog.Ascending
import ImageSync.Proofs.Reference.Grammar

/-!
# What a catalog means

The plan of a catalog, said without a run: the batches of its repositories, one behind the other,
each of which depends on its own line of the catalog and on what is listed for it.

## Main definitions

* `Listings`: what is listed for a repository.
* `Meaning.ofImages`, `Meaning.ofPattern`: the images that a repository contributes.
* `Meaning.ofCatalog`: the batches of a catalog.

## Main statements

* `Meaning.batch_ofImages_eq_none_iff`, `Meaning.batch_ofPattern_eq_none_iff`: the reasons why
  a repository contributes nothing.
-/

namespace ImageSync

/-- What is listed for a repository, if it depends on the access and on the repository alone. -/
abbrev Listings := Access → Reference → Except RegistryError (List String)

namespace Meaning

/-! ## Images -/

/-- The image of a tag. -/
def tagged (repository : Reference) (tag : String) : Reference :=
  { repository.repository with tag := some tag }

/-- The image of a digest or of a tag, if the text is either. -/
def pinned? (repository : Reference) (text : String) : Option Reference :=
  match Digest.parse text with
  | .ok digest => some (repository.withDigest digest)
  | .error _ => if Reference.isTag text.toList then some (tagged repository text) else none

/-- The images of all listed tags. A registry that refuses to list has no tags, and with one
malformed tag there is no listing. -/
def listed (listings : Listings) (access : Access) (repository : Reference) :
    Option (List Reference) :=
  match listings access repository with
  | .ok tags =>
    if tags.all fun tag => Reference.isTag tag.toList then some (tags.map (tagged repository))
    else none
  | .error e => if e.isRefusal then some [] else none

variable (listings : Listings) (pattern : String → Except String Matcher)

/-- The images of a repository with tags and digests; without any, all that are listed. -/
def ofImages (access : Access) (registry repository : String) (texts : List String) :
    Option (List Reference) := do
  let parsed ← (Reference.parseRepository (registry ++ "/" ++ repository)).toOption
  if texts = [] then listed listings access parsed else some (texts.filterMap (pinned? parsed))

/-- The listed images of a repository whose tags a pattern matches. -/
def ofPattern (access : Access) (registry repository text : String) : Option (List Reference) := do
  let parsed ← (Reference.parseRepository (registry ++ "/" ++ repository)).toOption
  let accepts ← (pattern text).toOption
  let images ← listed listings access parsed
  some (images.filter fun image => image.tag.any accepts)

/-! ## Batches -/

/-- The batch of a repository, if it contributes any image. -/
def batch (access : Access) : Option (List Reference) → Option Batch
  | none | some [] => none
  | some images => some { images := images.map .inRegistry, access := access }

/-- The batches of a registry: first those of tags and digests, then those of patterns. -/
def ofEntry (base : Access) (registry : String) (entry : RegistryEntry) : List Batch :=
  let access := base.forEntry entry
  entry.images.filterMap (fun p => batch access (ofImages listings access registry p.1 p.2)) ++
    entry.patterns.filterMap (fun p =>
      batch access (ofPattern listings pattern access registry p.1 p.2))

/-- The batches of all registries of a catalog that name a repository. -/
def ofCatalog (base : Access) (c : Catalog) : List Batch :=
  (c.registries.filter fun p => !p.2.namesNothing).flatMap fun p =>
    ofEntry listings pattern base p.1 p.2

/-! ## Why a repository contributes nothing -/

/-- Whether a repository cannot be listed: the listing fails, other than by refusal, or has a
malformed tag. -/
def Unlistable (access : Access) (repository : Reference) : Prop :=
  (∃ e, listings access repository = .error e ∧ e.isRefusal = false) ∨
    ∃ tags, listings access repository = .ok tags ∧
      ∃ tag ∈ tags, Reference.isTag tag.toList = false

/-- Whether a tag is listed for a repository. A registry that refuses lists none. -/
def Lists (access : Access) (repository : Reference) (tag : String) : Prop :=
  ∃ tags, listings access repository = .ok tags ∧ tag ∈ tags

/-- Why a repository with tags and digests contributes nothing: its name is invalid or no image is
left. That is, none of its texts is a digest or a tag or, if it has no text, it cannot be listed or
no tag is listed. -/
def ImagesFail (access : Access) (registry repository : String) (texts : List String) : Prop :=
  (∀ parsed, Reference.parseRepository (registry ++ "/" ++ repository) ≠ .ok parsed) ∨
    ∃ parsed, Reference.parseRepository (registry ++ "/" ++ repository) = .ok parsed ∧
      ((texts = [] ∧
          (Unlistable listings access parsed ∨ ∀ tag, ¬Lists listings access parsed tag)) ∨
        (texts ≠ [] ∧ ∀ text ∈ texts,
          (∀ digest, Digest.parse text ≠ .ok digest) ∧ Reference.isTag text.toList = false))

/-- Why a repository with a pattern contributes nothing: its name or the pattern is invalid, it
cannot be listed or the pattern matches none of its tags. -/
def PatternFails (access : Access) (registry repository text : String) : Prop :=
  (∀ parsed, Reference.parseRepository (registry ++ "/" ++ repository) ≠ .ok parsed) ∨
    (∀ accepts, pattern text ≠ .ok accepts) ∨
    ∃ parsed accepts, Reference.parseRepository (registry ++ "/" ++ repository) = .ok parsed ∧
      pattern text = .ok accepts ∧
      (Unlistable listings access parsed ∨
        ∀ tag, Lists listings access parsed tag → accepts tag = false)

end Meaning

namespace Meaning

variable {listings : Listings} {pattern : String → Except String Matcher} {access : Access}
  {repository : Reference}

theorem batch_eq_none_iff {images : Option (List Reference)} :
    batch access images = none ↔ ∀ l, images = some l → l = [] := by
  cases images with
  | none => simp [batch]
  | some l => cases l <;> simp [batch]

theorem listed_eq_none_iff :
    listed listings access repository = none ↔ Unlistable listings access repository := by
  unfold listed Unlistable
  cases listings access repository with
  | error e => simp
  | ok tags => simp

/-- What is listed for a repository are its tags. -/
theorem of_listed_eq_some {images : List Reference}
    (h : listed listings access repository = some images) (image : Reference) :
    image ∈ images ↔ ∃ tag, Lists listings access repository tag ∧ image = tagged repository tag := by
  unfold listed at h
  unfold Lists
  cases hl : listings access repository with
  | error e =>
      rw [hl] at h
      dsimp only at h
      split at h
      · cases h
        simp
      · cases h
  | ok tags =>
      rw [hl] at h
      dsimp only at h
      split at h
      · cases h
        simp [eq_comm]
      · cases h

/-- What a text is planned as. -/
theorem pinned?_eq_toOption (parsed : Reference) (text : String) :
    pinned? parsed text = (Expansion.declared parsed text).toOption := by
  unfold Expansion.declared pinned?
  cases Digest.parse text with
  | ok digest => rfl
  | error e =>
      by_cases htag : Reference.isTag text.toList = true
      · rw [Reference.withTag_eq_ok_iff.2 ⟨htag, rfl⟩]
        simp [htag, Except.toOption, tagged]
      · simp [Reference.withTag, Reference.checkTag, htag, Except.toOption]

theorem pinned?_eq_none_iff {text : String} :
    pinned? repository text = none ↔
      (∀ digest, Digest.parse text ≠ .ok digest) ∧ Reference.isTag text.toList = false := by
  unfold pinned?
  cases Digest.parse text with
  | ok digest => simp
  | error e => simp

theorem batch_ofImages_eq_none_iff {registry name : String} {texts : List String} :
    batch access (ofImages listings access registry name texts) = none ↔
      ImagesFail listings access registry name texts := by
  rw [batch_eq_none_iff]
  unfold ofImages ImagesFail
  cases hparsed : Reference.parseRepository (registry ++ "/" ++ name) with
  | error e => simp [Except.toOption]
  | ok parsed =>
      by_cases htexts : texts = []
      · cases hl : listed listings access parsed with
        | none =>
            have hfails := listed_eq_none_iff.1 hl
            simp [Except.toOption, htexts, hl, hfails]
        | some images =>
            have hfine : ¬Unlistable listings access parsed := by simp [← listed_eq_none_iff, hl]
            have hnone : images = [] ↔ ∀ tag, ¬Lists listings access parsed tag := by
              rw [List.eq_nil_iff_forall_not_mem]
              simp only [of_listed_eq_some hl]
              exact ⟨fun h tag ht => h _ ⟨tag, ht, rfl⟩, fun h _ ⟨tag, ht, _⟩ => h tag ht⟩
            simp [Except.toOption, htexts, hl, hfine, hnone]
      · simp [Except.toOption, htexts, List.filterMap_eq_nil_iff, pinned?_eq_none_iff]

theorem batch_ofPattern_eq_none_iff {registry name text : String} :
    batch access (ofPattern listings pattern access registry name text) = none ↔
      PatternFails listings pattern access registry name text := by
  rw [batch_eq_none_iff]
  unfold ofPattern PatternFails
  cases hparsed : Reference.parseRepository (registry ++ "/" ++ name) with
  | error e => simp [Except.toOption]
  | ok parsed =>
      cases hpattern : pattern text with
      | error e => simp [Except.toOption]
      | ok accepts =>
          cases hl : listed listings access parsed with
          | none =>
              have hfails := listed_eq_none_iff.1 hl
              simp [Except.toOption, hl, hfails]
          | some images =>
              have hfine : ¬Unlistable listings access parsed := by
                simp [← listed_eq_none_iff, hl]
              have hnone : (∀ image ∈ images, ¬image.tag.any accepts = true) ↔
                  ∀ tag, Lists listings access parsed tag → accepts tag = false := by
                simp only [of_listed_eq_some hl]
                constructor
                · intro h tag ht
                  simpa [tagged] using h _ ⟨tag, ht, rfl⟩
                · rintro h _ ⟨tag, ht, rfl⟩
                  simp [tagged, h tag ht]
              simp only [Except.toOption, hl, Option.bind_eq_bind, Option.bind_some,
                Option.some.injEq, forall_eq', List.filter_eq_nil_iff, hnone]
              simp [hfine]

end Meaning

end ImageSync
