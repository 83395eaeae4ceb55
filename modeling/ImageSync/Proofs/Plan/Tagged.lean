import ImageSync.Proofs.Plan.Resolved
import ImageSync.Proofs.Reference.RoundTrip
import ImageSync.Proofs.Reference.Shapes

/-!
# The tags that are accepted

A tag gets into a reference in four ways: it is read with the reference, it is put on a repository,
a registry lists it or a catalog declares it. All four admit the same texts, a word character and
at most 127 word characters, dots and hyphens behind it. A word character can be a letter or a digit
of any script, so there are tags that no registry takes. An accepted tag is one for registries
exactly if it is in ASCII.

## Main definitions

* `Reference.IsRegistryTag t`: whether a text is a tag by the rule of registries.
* `TagEntry`, `TagEntry.Admits e t`: the ways in which a tag gets into a reference.

## Main statements

* `Reference.isRegistryTag_iff`: which accepted tags are tags for registries.
* `TagEntry.admits_iff`: what each way admits.
* `TagEntry.admits_words`: both.
* `TagEntry.admits_other_letters`: accepted tags that are no tags for registries.
-/

namespace ImageSync

open Text
open Reference (TagShape)

variable {σ α β : Type}

/-! ## Tags for registries -/

namespace Reference

/-- Whether a text is a tag by the rule of registries: letters, digits, underscores, dots and
hyphens of ASCII, of which the first is no dot or hyphen, in at most 128 bytes. -/
structure IsRegistryTag (t : String) : Prop where
  chars : ∀ c ∈ t.toList, c.isAlphanum = true ∨ c = '_' ∨ c = '.' ∨ c = '-'
  head : ∀ c, t.toList.head? = some c → c ≠ '.' ∧ c ≠ '-'
  size_le : Utf8.size t.toList ≤ 128

/-- In ASCII the word characters are letters, digits and the underscore. -/
theorem isWord_iff_of_ascii {c : Char} (h : c.toNat < 128) :
    isWord c = true ↔ c.isAlphanum = true ∨ c = '_' := by
  simp [isWord, h]

/-- Dots and hyphens are no word characters. -/
theorem ne_of_isWord {c : Char} (h : isWord c = true) : c ≠ '.' ∧ c ≠ '-' := by
  constructor <;> rintro rfl <;> revert h <;> decide

variable {t : String}

theorem TagShape.head_ne (h : TagShape t.toList) :
    ∀ c, t.toList.head? = some c → c ≠ '.' ∧ c ≠ '-' := by
  obtain ⟨first, rest, ht, hfirst, -, -⟩ := h
  rw [ht]
  rintro c ⟨⟩
  exact ne_of_isWord hfirst

theorem TagShape.length_le (h : TagShape t.toList) : t.length ≤ 128 := by
  obtain ⟨first, rest, ht, -, hlength, -⟩ := h
  rw [← String.length_toList, ht, List.length_cons]
  omega

/-- An accepted tag is one for registries exactly if it is in ASCII. -/
theorem isRegistryTag_iff (h : TagShape t.toList) :
    IsRegistryTag t ↔ ∀ c ∈ t.toList, c.toNat < 128 := by
  constructor
  · intro hregistry c hc
    rcases hregistry.chars c hc with halphanum | rfl | rfl | rfl
    · exact toNat_lt_of_isAlphanum halphanum
    all_goals decide
  · intro hascii
    refine ⟨fun c hc => ?_, h.head_ne, ?_⟩
    · have htag := isTagChar_of_isTag (isTag_iff.2 h) c hc
      simpa [isTagChar, isWord_iff_of_ascii (hascii c hc), or_assoc] using htag
    · rw [Utf8.size_eq_length_of_ascii hascii, String.length_toList]
      exact h.length_le

end Reference

/-! ## Listed tags -/

/-- Whether each value with which work ends has a property, in every world and with every cut. -/
def Work.Ensures (x : Work σ α) (Q : α → Prop) : Prop :=
  ∀ cut w a w', x.run cut w = (some a, w') → Q a

namespace Work.Ensures

variable {Q : α → Prop} {R : β → Prop}

theorem pure {a : α} (h : Q a) : (Pure.pure a : Work σ α).Ensures Q := by
  rintro cut w a' w' ⟨⟩
  exact h

theorem bind {x : Work σ α} {f : α → Work σ β} (hx : x.Ensures Q)
    (hf : ∀ a, Q a → (f a).Ensures R) : (x >>= f).Ensures R := by
  intro cut w b w'' h
  cases hrun : x.run cut w with
  | mk result w' =>
      cases result with
      | none => cases (run_bind_of_none hrun).symm.trans h
      | some a =>
          rw [run_bind_of_some hrun] at h
          exact hf a (hx cut w a w' hrun) cut w' b w'' h

/-- What is done first does not matter for the value. -/
theorem after {x : Work σ α} {f : α → Work σ β} (hf : ∀ a, (f a).Ensures R) :
    (x >>= f).Ensures R :=
  bind (Q := fun _ => True) (fun _ _ _ _ _ => trivial) fun a _ => hf a

end Work.Ensures

/-- Whether all references of a list that was made have accepted tags. -/
def AllTagged (result : Except SyncError (List Reference)) : Prop :=
  ∀ rs, result = .ok rs → ∀ r ∈ rs, ∃ t, r.tag = some t ∧ TagShape t.toList

theorem ensures_taggedReferences (repository : Reference) (tags : List String) :
    (taggedReferences repository tags : Work σ _).Ensures AllTagged := by
  induction tags with
  | nil => exact .pure (by rintro rs ⟨⟩; simp)
  | cons tag tags ih =>
      rw [taggedReferences]
      cases htag : repository.withTag tag with
      | error e => exact .after fun _ => .pure (by rintro rs ⟨⟩)
      | ok r =>
          obtain ⟨hvalid, rfl⟩ := Reference.withTag_eq_ok_iff.1 htag
          refine ih.bind fun result hresult => ?_
          cases result with
          | error e => exact .pure (by rintro rs ⟨⟩)
          | ok rs =>
              refine .pure ?_
              rintro _ ⟨⟩
              have hshape : TagShape tag.toList := Reference.isTag_iff.1 hvalid
              exact List.forall_mem_cons.2 ⟨⟨tag, rfl, hshape⟩, hresult rs rfl⟩

/-- The references of a listing have accepted tags. -/
theorem ensures_listImages (s : Services σ) (access : Access) (repository : Reference) :
    (listImages s access repository).Ensures AllTagged := by
  refine .after fun _ => .after fun result => ?_
  cases result with
  | ok tags => exact ensures_taggedReferences repository tags
  | error e =>
      dsimp only
      split
      · exact .after fun _ => .pure (by rintro rs ⟨⟩; simp)
      · exact .pure (by rintro rs ⟨⟩)

/-! ## The ways to a tag -/

/-- The ways in which a tag gets into a reference. -/
inductive TagEntry where
  /-- It is read with the reference. -/
  | read
  /-- It is put on a repository. -/
  | put
  /-- A registry lists it. -/
  | listed
  /-- A catalog declares it. -/
  | declared
deriving DecidableEq, Repr

namespace TagEntry

/-- Whether a tag can get into a reference in this way. -/
def Admits : TagEntry → String → Prop
  | read, t => ∃ input r, Reference.parse input = .ok r ∧ r.tag = some t
  | put, t => ∃ (repository : Reference) (text : String) (r : Reference),
      repository.withTag text = .ok r ∧ r.tag = some t
  | listed, t => ∃ (σ : Type) (s : Services σ) (access : Access) (repository : Reference)
      (cut : Option Nat) (w : World σ) (rs : List Reference) (w' : World σ),
      (listImages s access repository).run cut w = (some (.ok rs), w') ∧ ∃ r ∈ rs, r.tag = some t
  | declared, t => ∃ repository text r, Expansion.declared repository text = .ok r ∧ r.tag = some t

/-- A repository on which tags are put. -/
def repository : Reference := ⟨"quay.io", "app", none, none⟩

theorem wellFormed_repository : repository.WellFormed :=
  have hparse : Reference.parse "quay.io/app" = .ok repository :=
    Reference.eq_ok_of_toOption (by decide +kernel)
  .of_parse hparse

/-- Services that list one tag and copy nothing. -/
def services (t : String) : Services Unit where
  listTags := fun _ _ _ state => ({ result := .ok [t] }, state)
  copy := fun _ tree state => ({ result := .error .cancelled }, tree, state)
  pattern := fun _ => .error "no pattern"

def world : World Unit := { now := 0, tree := .empty, journal := [], services := () }

variable {t : String}

theorem admits_put_iff : put.Admits t ↔ TagShape t.toList := by
  constructor
  · rintro ⟨repository, text, r, h, ht⟩
    obtain ⟨hvalid, rfl⟩ := Reference.withTag_eq_ok_iff.1 h
    cases ht
    exact Reference.isTag_iff.1 hvalid
  · intro h
    exact ⟨repository, t, _, Reference.withTag_eq_ok_iff.2 ⟨Reference.isTag_iff.2 h, rfl⟩, rfl⟩

theorem admits_read_iff : read.Admits t ↔ TagShape t.toList := by
  constructor
  · rintro ⟨input, r, h, ht⟩
    exact Reference.isTag_iff.1 ((Reference.WellFormed.of_parse h).validTag t ht)
  · intro h
    have htagged : repository.withTag t = .ok (Meaning.tagged repository t) :=
      Reference.withTag_eq_ok_iff.2 ⟨Reference.isTag_iff.2 h, rfl⟩
    exact ⟨_, _, Reference.parse_text (wellFormed_repository.withTag htagged), rfl⟩

theorem admits_listed_iff : listed.Admits t ↔ TagShape t.toList := by
  constructor
  · rintro ⟨σ, s, access, repository, cut, w, rs, w', h, r, hr, ht⟩
    obtain ⟨t', ht', hshape⟩ := ensures_listImages s access repository cut w _ w' h rs rfl r hr
    cases ht.symm.trans ht'
    exact hshape
  · intro h
    have hanswer : (services t).Answer fun _ _ => .ok [t] := fun _ _ _ _ => rfl
    obtain ⟨result, hgives, hresult⟩ := gives_listImages hanswer {} repository
    have hlisted : result = .ok [Meaning.tagged repository t] := by
      refine Reference.eq_ok_of_toOption ?_
      simp [hresult, Meaning.listed, Reference.isTag_iff.2 h]
    exact ⟨Unit, services t, {}, repository, none, world, [Meaning.tagged repository t], _,
      Prod.ext (hlisted ▸ hgives world) rfl, _, List.mem_singleton_self _, rfl⟩

theorem admits_declared_iff : declared.Admits t ↔ TagShape t.toList := by
  constructor
  · rintro ⟨repository, text, r, h, ht⟩
    rw [Expansion.declared] at h
    split at h
    · cases h
      cases ht
    · exact admits_put_iff.1 ⟨repository, text, r, h, ht⟩
  · intro h
    -- A tag is never taken for a digest.
    cases hdigest : Digest.parse t with
    | ok digest =>
        cases (Digest.isTag_eq_false_of_parse hdigest).symm.trans (Reference.isTag_iff.2 h)
    | error e =>
        refine ⟨repository, t, Meaning.tagged repository t, ?_, rfl⟩
        rw [Expansion.declared, hdigest]
        exact Reference.withTag_eq_ok_iff.2 ⟨Reference.isTag_iff.2 h, rfl⟩

/-- Each way admits the same tags. -/
theorem admits_iff (e : TagEntry) : e.Admits t ↔ TagShape t.toList := by
  cases e with
  | read => exact admits_read_iff
  | put => exact admits_put_iff
  | listed => exact admits_listed_iff
  | declared => exact admits_declared_iff

/-- Each way to a tag admits a word character with at most 127 word characters, dots and hyphens
behind it. Such a tag begins with no dot or hyphen and has at most 128 characters, and it is a tag
for registries exactly if it is in ASCII. -/
theorem admits_words (e : TagEntry) (t : String) :
    (e.Admits t ↔ TagShape t.toList) ∧
      (e.Admits t → (∀ c, t.toList.head? = some c → c ≠ '.' ∧ c ≠ '-') ∧ t.length ≤ 128 ∧
        (Reference.IsRegistryTag t ↔ ∀ c ∈ t.toList, c.toNat < 128)) := by
  refine ⟨e.admits_iff, fun h => ?_⟩
  have hshape : TagShape t.toList := e.admits_iff.1 h
  exact ⟨hshape.head_ne, hshape.length_le, Reference.isRegistryTag_iff hshape⟩

/-- A listed tag in ASCII is one for registries. -/
theorem admits_words_ascii :
    listed.Admits "v1.2_b-3" ∧ Reference.IsRegistryTag "v1.2_b-3" := by
  have hadmits : listed.Admits "v1.2_b-3" :=
    admits_listed_iff.2 (Reference.isTag_iff.1 (by decide +kernel))
  have hascii : ("v1.2_b-3".toList.all fun c => c.toNat < 128) = true := by decide +kernel
  obtain ⟨-, hwords⟩ := admits_words listed "v1.2_b-3"
  exact ⟨hadmits, (hwords hadmits).2.2.2 fun c hc =>
    of_decide_eq_true (List.all_eq_true.1 hascii c hc)⟩

/-- A letter that is not in ASCII is a tag in each way, and no tag for registries. With 128 such
letters a tag has more than 128 bytes. -/
theorem admits_other_letters :
    Reference.parse "quay.io/app:é" = .ok ⟨"quay.io", "app", some "é", none⟩ ∧
      (read.Admits "é" ∧ put.Admits "é" ∧ listed.Admits "é" ∧ declared.Admits "é") ∧
      ¬Reference.IsRegistryTag "é" ∧
      read.Admits (String.ofList (List.replicate 128 'é')) ∧
      Utf8.size (List.replicate 128 'é') = 256 := by
  have hshape : TagShape "é".toList := Reference.isTag_iff.1 (by decide +kernel)
  have hword : isWord 'é' = true := by decide +kernel
  have hlong : TagShape (String.ofList (List.replicate 128 'é')).toList := by
    rw [String.toList_ofList]
    exact ⟨'é', List.replicate 127 'é', rfl, hword, by simp, fun c hc =>
      .inl (List.eq_of_mem_replicate hc ▸ hword)⟩
  refine ⟨Reference.eq_ok_of_toOption (by decide +kernel),
    ⟨admits_read_iff.2 hshape, admits_put_iff.2 hshape, admits_listed_iff.2 hshape,
      admits_declared_iff.2 hshape⟩, fun h => ?_, admits_read_iff.2 hlong, by decide +kernel⟩
  exact absurd (h.chars 'é' (by decide)) (by decide)

end TagEntry

end ImageSync
