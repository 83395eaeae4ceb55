import ImageSync.Proofs.Plan.Meaning
import ImageSync.Proofs.Reference.RoundTrip

/-!
# A run plans what its catalog means

The plan of a catalog is its meaning if the listings depend on access and repository alone. Each
repository is planned on its own: whatever goes wrong with one gives no batch, and the others come
out as they would without it.

## Main definitions

* `Work.Gives`: work that gives one value in every world.
* `Services.Answer`: services whose listings are those of a function.

## Main statements

* `Expansion.gives_ofImages`, `Expansion.gives_ofPattern`: the batch of one repository.
* `Plan.resolve_eq_meaning`: the plan of a catalog.
-/

namespace ImageSync

variable {σ α β : Type}

/-! ## Work with one value -/

/-- The work gives this value in every world, unless it is cut. -/
def Work.Gives (x : Work σ α) (a : α) : Prop := ∀ w, (x.run none w).1 = some a

namespace Work.Gives

theorem pure (a : α) : (Pure.pure a : Work σ α).Gives a := fun _ => rfl

theorem bind {x : Work σ α} {f : α → Work σ β} {a : α} {b : β} (hx : x.Gives a)
    (hf : (f a).Gives b) : (x >>= f).Gives b := by
  intro w
  cases hrun : x.run none w with
  | mk result w' =>
      have hresult : result = some a := by simpa [hrun] using hx w
      rw [hresult] at hrun
      rw [run_bind_of_some hrun]
      exact hf w'

theorem report (e : Event) : (Work.report e : Work σ Unit).Gives () := fun _ => rfl

theorem log (line : LogLine) : (Work.log line : Work σ Unit).Gives () := fun _ => rfl

/-- What is done before the work does not change its value. -/
theorem after {x : Work σ Unit} {y : Work σ α} {a : α} (hx : x.Gives ()) (hy : y.Gives a) :
    (do x; y).Gives a :=
  hx.bind hy

end Work.Gives

/-! ## Listings -/

/-- The services list what the function says, whatever else there is. -/
def Services.Answer (s : Services σ) (listings : Listings) : Prop :=
  ∀ tree access repository state,
    (s.listTags tree access repository state).1.result = listings access repository

section

variable {s : Services σ} {listings : Listings}

theorem Services.gives_list (h : s.Answer listings) (access : Access) (repository : Reference) :
    (s.list access repository).Gives (listings access repository) := by
  intro w
  have hanswer := h w.tree access repository w.services
  simp only [list, Work.run_bind, Work.run_note, Work.run_world, Work.run_setWorld,
    Work.run_logAll, Work.run_pause_none, Work.run_pure, hanswer]

variable (σ) in
/-- The images of listed tags: all of them, or an error if one tag is malformed. -/
theorem gives_taggedReferences (repository : Reference) (tags : List String) :
    ∃ result, (taggedReferences repository tags : Work σ _).Gives result ∧
      result.toOption = if tags.all fun tag => Reference.isTag tag.toList then
        some (tags.map (Meaning.tagged repository)) else none := by
  induction tags with
  | nil => exact ⟨.ok [], .pure _, rfl⟩
  | cons tag tags ih =>
      obtain ⟨result, hgives, hresult⟩ := ih
      rw [taggedReferences]
      cases htag : repository.withTag tag with
      | error e =>
          have hbad : Reference.isTag tag.toList = false := by
            rw [Bool.eq_false_iff]
            intro hgood
            rw [Reference.withTag_eq_ok_iff.2 ⟨hgood, rfl⟩] at htag
            cases htag
          refine ⟨.error (.reference e), .after (.log _) (.pure _), ?_⟩
          simp [hbad, Except.toOption]
      | ok r =>
          obtain ⟨hgood, rfl⟩ := Reference.withTag_eq_ok_iff.1 htag
          cases result with
          | error e =>
              refine ⟨.error e, hgives.bind (.pure _), ?_⟩
              simp only [Except.toOption] at hresult
              simp_all [Except.toOption]
          | ok rs =>
              refine ⟨.ok (Meaning.tagged repository tag :: rs), hgives.bind (.pure _), ?_⟩
              simp only [Except.toOption] at hresult
              simp_all [Except.toOption, Meaning.tagged]

/-- The images of a repository are those of its listing. -/
theorem gives_listImages (h : s.Answer listings) (access : Access) (repository : Reference) :
    ∃ result, (listImages s access repository).Gives result ∧
      result.toOption = Meaning.listed listings access repository := by
  have hlist := Services.gives_list h access repository
  unfold Meaning.listed
  cases hl : listings access repository with
  | ok tags =>
      rw [hl] at hlist
      obtain ⟨result, hgives, hresult⟩ := gives_taggedReferences σ repository tags
      exact ⟨result, .after (.report _) (hlist.bind hgives), hresult⟩
  | error e =>
      rw [hl] at hlist
      by_cases hrefusal : e.isRefusal = true
      · refine ⟨.ok [], .after (.report _) (hlist.bind ?_), by simp [hrefusal, Except.toOption]⟩
        simp only [hrefusal, if_true]
        exact .after (.report _) (.pure _)
      · refine ⟨.error (.listing repository.name e), .after (.report _) (hlist.bind ?_),
          by simp [hrefusal, Except.toOption]⟩
        simp only [hrefusal]
        exact .pure _

end

/-! ## Repositories -/

namespace Expansion

variable {s : Services σ} {listings : Listings} {access : Access} {registry repository : String}

open Meaning (batch pinned?)

theorem gives_skip (reason : SkipReason) :
    (skip registry repository reason : Work σ (Option Batch)).Gives none :=
  .after (.report _) (.pure _)

theorem gives_finish (parsed : Reference) (images : List Reference) :
    (finish registry repository parsed images access : Work σ _).Gives
      (batch access (some images)) := by
  unfold finish
  cases images with
  | nil => exact gives_skip .nothingFound
  | cons image images => exact .after (.report _) (.pure _)

/-- The texts of a repository that are digests or tags give images, in their order. -/
theorem gives_declaredAll (parsed : Reference) (texts : List String) :
    (declaredAll registry repository parsed texts : Work σ _).Gives
      (texts.filterMap (pinned? parsed)) := by
  induction texts with
  | nil => exact .pure []
  | cons text texts ih =>
      have hpinned := Meaning.pinned?_eq_toOption parsed text
      rw [declaredAll]
      cases hdeclared : declared parsed text with
      | ok r =>
          rw [hdeclared] at hpinned
          rw [List.filterMap_cons_some hpinned]
          exact ih.bind (.pure _)
      | error e =>
          rw [hdeclared] at hpinned
          rw [List.filterMap_cons_none hpinned]
          exact .after (.report _) ih

/-- The batch of a repository with tags and digests. -/
theorem gives_ofImages (h : s.Answer listings) (texts : List String) :
    (ofImages s registry access repository texts).Gives
      (batch access (Meaning.ofImages listings access registry repository texts)) := by
  unfold ofImages Meaning.ofImages
  cases hparsed : Reference.parseRepository (registry ++ "/" ++ repository) with
  | error e => exact gives_skip _
  | ok parsed =>
      cases texts with
      | nil =>
          obtain ⟨result, hgives, hresult⟩ := gives_listImages h access parsed
          refine hgives.bind ?_
          cases result with
          | error e =>
              have hnone : Meaning.listed listings access parsed = none := hresult.symm
              simp only [Except.toOption, Option.bind_eq_bind, Option.bind_some, if_true, hnone]
              exact gives_skip _
          | ok images =>
              have hsome : Meaning.listed listings access parsed = some images := hresult.symm
              simp only [Except.toOption, Option.bind_eq_bind, Option.bind_some, if_true, hsome]
              exact gives_finish parsed images
      | cons text texts =>
          exact (gives_declaredAll parsed (text :: texts)).bind (gives_finish parsed _)

/-- The batch of a repository with a pattern. -/
theorem gives_ofPattern (h : s.Answer listings) (text : String) :
    (ofPattern s registry access repository text).Gives
      (batch access
        (Meaning.ofPattern listings s.pattern access registry repository text)) := by
  unfold ofPattern Meaning.ofPattern
  cases hparsed : Reference.parseRepository (registry ++ "/" ++ repository) with
  | error e => exact gives_skip _
  | ok parsed =>
      cases hpattern : s.pattern text with
      | error e => exact gives_skip _
      | ok accepts =>
          obtain ⟨result, hgives, hresult⟩ := gives_listImages h access parsed
          refine hgives.bind ?_
          cases result with
          | error e =>
              have hnone : Meaning.listed listings access parsed = none := hresult.symm
              simp only [Except.toOption, Option.bind_eq_bind, Option.bind_some, hnone]
              exact gives_skip _
          | ok images =>
              have hsome : Meaning.listed listings access parsed = some images := hresult.symm
              simp only [Except.toOption, Option.bind_eq_bind, Option.bind_some, hsome]
              exact .after (.report _) (gives_finish parsed _)

/-! ## Registries -/

/-- Repositories are planned one after the other, each on its own. -/
theorem gives_collect {batchOf : String → α → Work σ (Option Batch)}
    {contribution : String × α → Option Batch} {l : List (String × α)}
    (h : ∀ p, (batchOf p.1 p.2).Gives (contribution p)) :
    (collect batchOf l).Gives (l.filterMap contribution) := by
  induction l with
  | nil => exact .pure []
  | cons p l ih =>
      have hcons : (p :: l).filterMap contribution =
          (contribution p).toList ++ l.filterMap contribution := by
        cases hp : contribution p <;> simp [hp]
      rw [hcons]
      exact (h p).bind (ih.bind (.pure _))

theorem gives_ofEntry (h : s.Answer listings) (base : Access) (entry : RegistryEntry) :
    (ofEntry s base registry entry).Gives
      (Meaning.ofEntry listings s.pattern base registry entry) :=
  (gives_collect fun p => gives_ofImages h p.2).bind
    ((gives_collect fun p => gives_ofPattern h p.2).bind (.pure _))

/-- No batch of a registry is empty. -/
theorem images_ne_nil_of_mem_ofEntry {pattern : String → Except String Matcher} {base : Access}
    {entry : RegistryEntry} {b : Batch}
    (h : b ∈ Meaning.ofEntry listings pattern base registry entry) : b.images ≠ [] := by
  have hbatch : ∀ images, batch (base.forEntry entry) images = some b → b.images ≠ [] := by
    intro images himages
    match images with
    | none => cases himages
    | some [] => cases himages
    | some (image :: images) =>
        cases himages
        simp
  rcases List.mem_append.1 h with h | h
  · obtain ⟨p, -, hp⟩ := List.mem_filterMap.1 h
    exact hbatch _ hp
  · obtain ⟨p, -, hp⟩ := List.mem_filterMap.1 h
    exact hbatch _ hp

/-- The plan of the entries goes on behind what is planned already. -/
theorem gives_ofEntries (h : s.Answer listings) (base : Access) (plan : Plan)
    (entries : List (String × RegistryEntry)) :
    ∃ plan', (ofEntries s base plan entries).Gives plan' ∧
      plan'.batches =
        plan.batches ++ Meaning.ofCatalog listings s.pattern base ⟨entries⟩ := by
  induction entries generalizing plan with
  | nil => exact ⟨plan, .pure plan, by simp [Meaning.ofCatalog]⟩
  | cons p entries ih =>
      obtain ⟨registry, entry⟩ := p
      unfold Meaning.ofCatalog at ih ⊢
      rw [ofEntries]
      by_cases hnothing : entry.namesNothing = true
      · obtain ⟨plan', hgives, hplan⟩ := ih plan
        refine ⟨plan', ?_, ?_⟩
        · simp only [hnothing, if_true]
          exact .after (.report _) hgives
        · simpa [hnothing] using hplan
      · let batches := Meaning.ofEntry listings s.pattern base registry entry
        obtain ⟨plan', hgives, hplan⟩ := ih (plan.addAll batches)
        have hall : (batches.filter fun b => b.images ≠ []) = batches :=
          List.filter_eq_self.2 fun b hb => by simpa using images_ne_nil_of_mem_ofEntry hb
        refine ⟨plan', ?_, ?_⟩
        · simp only [hnothing]
          exact (gives_ofEntry h base entry).bind hgives
        · rw [hplan, Plan.batches_addAll, hall]
          simp [hnothing, batches]

end Expansion

/-- A run plans what its catalog means. The catalog that was read ascends. So the plan has the
batches of its registries in the order of their names and, for each of them, those of the
repositories with tags and digests before those with patterns, again in the order of their names.
A repository contributes nothing for the reasons that are listed, and for no other, and no text is
both a digest and a tag. -/
theorem Plan.resolve_eq_meaning {s : Services σ} {listings : Listings} (hanswer : s.Answer listings)
    {w : World σ} {source : String} {catalog : Catalog}
    (hload : Catalog.load w.tree source = .ok catalog) (base : Access) :
    ∃ plan, ((resolve s base source .catalog).run none w).1 = some (.ok plan) ∧
      catalog.Ascending ∧
      plan.batches = Meaning.ofCatalog listings s.pattern base catalog ∧
      (∀ access registry repository texts,
        Meaning.batch access (Meaning.ofImages listings access registry repository texts) = none ↔
          Meaning.ImagesFail listings access registry repository texts) ∧
      (∀ access registry repository text,
        Meaning.batch access
            (Meaning.ofPattern listings s.pattern access registry repository text) = none ↔
          Meaning.PatternFails listings s.pattern access registry repository text) ∧
      ∀ text digest, Digest.parse text = .ok digest → Reference.isTag text.toList = false := by
  obtain ⟨plan, hgives, hplan⟩ := Expansion.gives_ofEntries hanswer base .empty catalog.registries
  refine ⟨plan, ?_, Catalog.ascending_of_load hload, by simpa using hplan,
    fun _ _ _ _ => Meaning.batch_ofImages_eq_none_iff,
    fun _ _ _ _ => Meaning.batch_ofPattern_eq_none_iff,
    fun _ _ => Digest.isTag_eq_false_of_parse⟩
  have hresolved : (resolve s base source .catalog).run none w =
      (Expansion.ofEntries s base .empty catalog.registries >>= fun plan =>
        pure (.ok plan)).run none w := by
    rw [resolve, ofCatalog, Work.run_bind, Work.run_world]
    simp only [hload]
  rw [hresolved]
  exact hgives.bind (f := fun plan => pure (Except.ok plan)) (.pure _) w

namespace SmallCatalog

def text : String := "quay.io:\n  images:\n    z: [v1, \"?\"]\n    a: []\n"

def world : World Unit where
  now := 0
  tree := {
    entries := [([Path.ofString "c"], .file (Text.Utf8.encode text.toList))]
    home := [] }
  journal := []
  services := ()

/-- What was written, with the repositories in their order. -/
def catalog : Catalog := ⟨[("quay.io", { images := [("a", []), ("z", ["v1", "?"])] })]⟩

/-- Services that refuse to list. -/
def services : Services Unit where
  listTags := fun _ _ _ state => ({ result := .error (.refused "no") }, state)
  copy := fun _ tree state => ({ result := .ok () }, tree, state)
  pattern := fun _ => .error "no pattern"

end SmallCatalog

/-- Of two repositories one cannot be listed, and of two texts of the other one is no tag. -/
theorem Plan.resolve_eq_meaning_small :
    ∃ plan, ((resolve SmallCatalog.services {} "c" .catalog).run none SmallCatalog.world).1 =
        some (.ok plan) ∧
      plan.images = [.inRegistry ⟨"quay.io", "z", some "v1", none⟩] := by
  have hload : Catalog.load SmallCatalog.world.tree "c" = .ok SmallCatalog.catalog :=
    Reference.eq_ok_of_toOption (by decide +kernel)
  have hanswer : SmallCatalog.services.Answer fun _ _ => .error (.refused "no") :=
    fun _ _ _ _ => rfl
  obtain ⟨plan, hrun, -, hplan, -⟩ := resolve_eq_meaning hanswer hload {}
  refine ⟨plan, hrun, ?_⟩
  rw [images, hplan]
  decide +kernel

end ImageSync
