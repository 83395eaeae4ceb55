import ImageSync.Plan.Resolve
import ImageSync.Proofs.Plan.Meaning
import ImageSync.Proofs.Run.Uncut

/-!
# A catalog is planned line by line

A catalog is a list of lines: one for each repository that an entry names, and one for an entry that
names nothing. Rules say what one line comes to, that is its batch and what happens on the way, one
rule for each way that it can go. A catalog is planned by going through its lines in order, whatever
is listed and whatever the services remember from one listing to the next.

## Main definitions

* `Catalog.Line`, `Catalog.lines`: the lines of a catalog.
* `Services.Listed`: the rules for a listing.
* `Expansion.Followed`: the rules for a line.
* `Outcome`: a line with what it came to.
* `Work.Leaves x P`: work that is not cut leaves the file tree alone, and its value and what happens
  fit together.

## Main statements

* `Expansion.leaves_ofImages`, `Expansion.leaves_ofPattern`: a repository goes by the rules.
* `Plan.run_resolve_catalog`: a catalog is planned line by line.
-/

namespace ImageSync

variable {σ α β : Type}

/-! ## Lines -/

namespace Catalog

/-- What an entry of a catalog says in one place. -/
inductive Subject where
  /-- It names nothing. -/
  | nothing
  | images (repository : String) (texts : List String)
  | pattern (repository text : String)
deriving DecidableEq, Repr

/-- The repository that is named. -/
def Subject.repository? : Subject → Option String
  | nothing => none
  | images repository _ => some repository
  | pattern repository _ => some repository

/-- One line of a catalog, with the registry and the entry that it stands in. -/
structure Line where
  registry : String
  entry : RegistryEntry
  subject : Subject
deriving DecidableEq, Repr

/-- The repository that a line means, with what is wrong if it is none. -/
def Line.parsed (line : Line) (repository : String) : Except ReferenceError Reference :=
  Reference.parseRepository (line.registry ++ "/" ++ repository)

end Catalog

/-- What an entry says: first the repositories with tags and digests, then those with patterns. -/
def RegistryEntry.subjects (e : RegistryEntry) : List Catalog.Subject :=
  if e.namesNothing then [.nothing]
  else e.images.map (fun p => .images p.1 p.2) ++ e.patterns.map fun p => .pattern p.1 p.2

/-- The lines of a catalog in their order. -/
def Catalog.lines (c : Catalog) : List Catalog.Line :=
  c.registries.flatMap fun p => p.2.subjects.map fun subject => ⟨p.1, p.2, subject⟩

/-! ## Rules -/

/-- What happens when the tags of a repository are asked for. -/
def asking (access : Access) (repository : Reference) : List Happening :=
  [.event (.listingTags repository.name), .listing access repository]

/-- Whether services may list this for a repository, in some state. -/
def Services.MayList (s : Services σ) (access : Access) (repository : Reference)
    (result : Except RegistryError (List String)) : Prop :=
  ∃ tree state, (s.listTags tree access repository state).1.result = result

/-- What a listing comes to, with what happens. -/
inductive Services.Listed (s : Services σ) (access : Access) (repository : Reference) :
    Except SyncError (List Reference) → List Happening → Prop
  | tags {tags : List String} (h : s.MayList access repository (.ok tags))
      (hvalid : ∀ tag ∈ tags, Reference.isTag tag.toList = true) :
      Listed s access repository (.ok (tags.map (Meaning.tagged repository)))
        (asking access repository)
  | malformed {tags : List String} {tag : String} {e : ReferenceError}
      (h : s.MayList access repository (.ok tags)) (htag : tag ∈ tags)
      (hinvalid : repository.withTag tag = .error e) :
      Listed s access repository (.error (.reference e)) (asking access repository)
  | denied {e : RegistryError} (h : s.MayList access repository (.error e))
      (hrefusal : e.isRefusal = true) :
      Listed s access repository (.ok [])
        (asking access repository ++ [.event (.listingDenied repository.name e.message)])
  | failed {e : RegistryError} (h : s.MayList access repository (.error e))
      (hfailure : e.isRefusal = false) :
      Listed s access repository (.error (.listing repository.name e)) (asking access repository)

theorem Meaning.repository_of_pinned? {parsed r : Reference} {text : String}
    (h : pinned? parsed text = some r) : r.repository = parsed.repository := by
  unfold pinned? at h
  split at h
  · cases h
    rfl
  · split at h <;> cases h
    rfl

/-- The images of a listing are those of its tags. -/
theorem Services.Listed.of_ok {s : Services σ} {access : Access} {repository : Reference}
    {images : List Reference} {happened : List Happening}
    (h : s.Listed access repository (.ok images) happened) (hne : images ≠ []) :
    ∃ tags, s.MayList access repository (.ok tags) ∧
      (∀ tag ∈ tags, Reference.isTag tag.toList = true) ∧
      images = tags.map (Meaning.tagged repository) := by
  cases h with
  | tags h hvalid => exact ⟨_, h, hvalid, rfl⟩
  | denied h hrefusal => exact absurd rfl hne

/-- The images of a listing belong to the repository that was listed. -/
theorem Services.Listed.repository_eq {s : Services σ} {access : Access} {repository : Reference}
    {images : List Reference} {happened : List Happening}
    (h : s.Listed access repository (.ok images) happened) :
    ∀ r ∈ images, r.repository = repository.repository := by
  cases h with
  | tags h hvalid =>
      intro r hr
      obtain ⟨tag, -, rfl⟩ := List.mem_map.1 hr
      rfl
  | denied h hrefusal => simp

theorem Meaning.batch_eq_some_iff {access : Access} {images : List Reference} {b : Batch} :
    batch access (some images) = some b ↔
      images ≠ [] ∧ b = { images := images.map .inRegistry, access := access } := by
  cases images with
  | nil => simp [batch]
  | cons image images => simp [batch, eq_comm]

namespace Expansion

open Meaning (batch pinned?)

/-- What is reported of a repository with these images. -/
def verdict (registry repository : String) (parsed : Reference) (images : List Reference) : Event :=
  if images.isEmpty then .repositorySkipped registry repository .nothingFound
  else .repositoryPlanned parsed.name images.length

/-- What is reported of a text that is neither a digest nor a tag. -/
def refusal? (registry repository : String) (parsed : Reference) (text : String) : Option Event :=
  match declared parsed text with
  | .ok _ => none
  | .error e => some (.refSkipped registry repository text e.message)

/-- What a line comes to: its batch and what happens. -/
inductive Followed (s : Services σ) (base : Access) :
    Catalog.Line → Option Batch → List Happening → Prop
  | nothing {registry : String} {entry : RegistryEntry} :
      Followed s base ⟨registry, entry, .nothing⟩ none [.event (.registrySkipped registry)]
  | badName {line : Catalog.Line} {repository : String} {e : ReferenceError}
      (hrepository : line.subject.repository? = some repository)
      (h : line.parsed repository = .error e) :
      Followed s base line none
        [.event (.repositorySkipped line.registry repository (.badName e.message))]
  | declared {registry repository : String} {entry : RegistryEntry} {texts : List String}
      {parsed : Reference} (htexts : texts ≠ [])
      (h : Reference.parseRepository (registry ++ "/" ++ repository) = .ok parsed) :
      Followed s base ⟨registry, entry, .images repository texts⟩
        (batch (base.forEntry entry) (some (texts.filterMap (pinned? parsed))))
        ((texts.filterMap (refusal? registry repository parsed)).map .event ++
          [.event (verdict registry repository parsed (texts.filterMap (pinned? parsed)))])
  | unlisted {registry repository : String} {entry : RegistryEntry} {parsed : Reference}
      {e : SyncError} {happened : List Happening}
      (h : Reference.parseRepository (registry ++ "/" ++ repository) = .ok parsed)
      (hlisted : s.Listed (base.forEntry entry) parsed (.error e) happened) :
      Followed s base ⟨registry, entry, .images repository []⟩ none
        (happened ++ [.event (.repositorySkipped registry repository (.listingFailed e.message))])
  | listed {registry repository : String} {entry : RegistryEntry} {parsed : Reference}
      {images : List Reference} {happened : List Happening}
      (h : Reference.parseRepository (registry ++ "/" ++ repository) = .ok parsed)
      (hlisted : s.Listed (base.forEntry entry) parsed (.ok images) happened) :
      Followed s base ⟨registry, entry, .images repository []⟩
        (batch (base.forEntry entry) (some images))
        (happened ++ [.event (verdict registry repository parsed images)])
  | badPattern {registry repository text e : String} {entry : RegistryEntry} {parsed : Reference}
      (h : Reference.parseRepository (registry ++ "/" ++ repository) = .ok parsed)
      (hpattern : s.pattern text = .error e) :
      Followed s base ⟨registry, entry, .pattern repository text⟩ none
        [.event (.repositorySkipped registry repository (.badPattern e))]
  | unmatched {registry repository text : String} {entry : RegistryEntry} {parsed : Reference}
      {accepts : Matcher} {e : SyncError} {happened : List Happening}
      (h : Reference.parseRepository (registry ++ "/" ++ repository) = .ok parsed)
      (hpattern : s.pattern text = .ok accepts)
      (hlisted : s.Listed (base.forEntry entry) parsed (.error e) happened) :
      Followed s base ⟨registry, entry, .pattern repository text⟩ none
        (happened ++ [.event (.repositorySkipped registry repository (.listingFailed e.message))])
  | matched {registry repository text : String} {entry : RegistryEntry} {parsed : Reference}
      {accepts : Matcher} {images : List Reference} {happened : List Happening}
      (h : Reference.parseRepository (registry ++ "/" ++ repository) = .ok parsed)
      (hpattern : s.pattern text = .ok accepts)
      (hlisted : s.Listed (base.forEntry entry) parsed (.ok images) happened) :
      Followed s base ⟨registry, entry, .pattern repository text⟩
        (batch (base.forEntry entry) (some (images.filter (hasTag accepts))))
        (happened ++ [.event (.filteringTags parsed.name text),
          .event (verdict registry repository parsed (images.filter (hasTag accepts)))])

/-- The batch of a line: images of the repository that it means, which are those of its texts or
listed ones. -/
theorem Followed.of_some {s : Services σ} {base : Access} {line : Catalog.Line} {b : Batch}
    {happened : List Happening} (h : Followed s base line (some b) happened) :
    ∃ repository parsed images, line.subject.repository? = some repository ∧
      line.parsed repository = .ok parsed ∧ images ≠ [] ∧
      b = { images := images.map .inRegistry, access := base.forEntry line.entry } ∧
      (∀ r ∈ images, r.repository = parsed.repository) ∧
      ((∃ texts, line.subject = .images repository texts ∧
          images = texts.filterMap (pinned? parsed)) ∨
        ∃ tags, s.MayList (base.forEntry line.entry) parsed (.ok tags) ∧
          (∀ tag ∈ tags, Reference.isTag tag.toList = true) ∧
          images.Sublist (tags.map (Meaning.tagged parsed))) := by
  generalize hbatch : some b = result at h
  cases h with
  | nothing => cases hbatch
  | badName => cases hbatch
  | unlisted => cases hbatch
  | badPattern => cases hbatch
  | unmatched => cases hbatch
  | @declared registry repository entry texts parsed htexts h =>
      obtain ⟨hne, rfl⟩ := Meaning.batch_eq_some_iff.1 hbatch.symm
      refine ⟨repository, parsed, _, rfl, h, hne, rfl, fun r hr => ?_, .inl ⟨texts, rfl, rfl⟩⟩
      obtain ⟨text, -, hpinned⟩ := List.mem_filterMap.1 hr
      exact Meaning.repository_of_pinned? hpinned
  | @listed registry repository entry parsed images happened h hlisted =>
      obtain ⟨hne, rfl⟩ := Meaning.batch_eq_some_iff.1 hbatch.symm
      obtain ⟨tags, htags, hvalid, rfl⟩ := hlisted.of_ok hne
      exact ⟨repository, parsed, _, rfl, h, hne, rfl, hlisted.repository_eq,
        .inr ⟨tags, htags, hvalid, List.Sublist.refl _⟩⟩
  | @matched registry repository text entry parsed accepts images happened h hpattern hlisted =>
      obtain ⟨hne, rfl⟩ := Meaning.batch_eq_some_iff.1 hbatch.symm
      have hne' : images ≠ [] := fun himages => hne (by rw [himages]; rfl)
      obtain ⟨tags, htags, hvalid, rfl⟩ := hlisted.of_ok hne'
      exact ⟨repository, parsed, _, rfl, h, hne, rfl,
        fun r hr => hlisted.repository_eq r (List.mem_of_mem_filter hr),
        .inr ⟨tags, htags, hvalid, List.filter_sublist⟩⟩

end Expansion

/-- A line of a catalog with what it came to. -/
structure Outcome where
  line : Catalog.Line
  batch : Option Batch
  happened : List Happening

/-- Whether a line came to this by the rules. -/
def Outcome.IsBy (s : Services σ) (base : Access) (o : Outcome) : Prop :=
  Expansion.Followed s base o.line o.batch o.happened

/-- Lines one behind the other: their batches, and what happens. -/
def Followed (s : Services σ) (base : Access) (lines : List Catalog.Line) (batches : List Batch)
    (happened : List Happening) : Prop :=
  ∃ outcomes : List Outcome, outcomes.map Outcome.line = lines ∧
    batches = outcomes.filterMap Outcome.batch ∧ happened = outcomes.flatMap Outcome.happened ∧
    ∀ o ∈ outcomes, o.IsBy s base

namespace Followed

variable {s : Services σ} {base : Access} {lines lines' : List Catalog.Line}
  {batches batches' : List Batch} {happened happened' : List Happening}

theorem nil : Followed s base [] [] [] := ⟨[], rfl, rfl, rfl, by simp⟩

theorem of_line {line : Catalog.Line} {b : Option Batch}
    (h : Expansion.Followed s base line b happened) :
    Followed s base [line] b.toList happened := by
  refine ⟨[⟨line, b, happened⟩], rfl, ?_, by simp, by simpa [Outcome.IsBy] using h⟩
  cases b <;> rfl

theorem append (h : Followed s base lines batches happened)
    (h' : Followed s base lines' batches' happened') :
    Followed s base (lines ++ lines') (batches ++ batches') (happened ++ happened') := by
  obtain ⟨a, rfl, rfl, rfl, ha⟩ := h
  obtain ⟨b, rfl, rfl, rfl, hb⟩ := h'
  exact ⟨a ++ b, List.map_append, List.filterMap_append.symm, List.flatMap_append.symm,
    List.forall_mem_append.2 ⟨ha, hb⟩⟩

/-- No batch is empty. -/
theorem filter_batches (h : Followed s base lines batches happened) :
    (batches.filter fun b => b.images ≠ []) = batches := by
  obtain ⟨outcomes, -, rfl, -, hby⟩ := h
  refine List.filter_eq_self.2 fun b hb => ?_
  obtain ⟨o, ho, hbatch⟩ := List.mem_filterMap.1 hb
  have hfollowed := hby o ho
  rw [Outcome.IsBy, hbatch] at hfollowed
  obtain ⟨-, -, images, -, -, hne, rfl, -⟩ := hfollowed.of_some
  simpa using hne

end Followed

/-! ## Work that leaves the file tree alone -/

/-- Work that comes to its end and leaves the file tree as it is, with a value that fits to what
happens on the way. -/
def Work.Leaves (x : Work σ α) (P : α → List Happening → Prop) : Prop :=
  ∀ w, ∃ a w' happened, x.run none w = (some a, w') ∧ w'.tree = w.tree ∧ w.Grows w' happened ∧
    P a happened

namespace Work.Leaves

variable {P : α → List Happening → Prop} {R : β → List Happening → Prop}

theorem pure {a : α} (h : P a []) : (Pure.pure a : Work σ α).Leaves P :=
  fun w => ⟨a, w, [], rfl, rfl, .of_journal_eq rfl, h⟩

theorem bind {x : Work σ α} {f : α → Work σ β} (hx : x.Leaves P)
    (hf : ∀ a first, P a first → (f a).Leaves fun b rest => R b (first ++ rest)) :
    (x >>= f).Leaves R := by
  intro w
  obtain ⟨a, w', first, hrun, htree, hgrows, ha⟩ := hx w
  obtain ⟨b, w'', rest, hrun', htree', hgrows', hb⟩ := hf a first ha w'
  exact ⟨b, w'', first ++ rest, by rw [run_bind_of_some hrun, hrun'], htree'.trans htree,
    hgrows.trans hgrows', hb⟩

theorem mono {P' : α → List Happening → Prop} {x : Work σ α} (hx : x.Leaves P)
    (h : ∀ a happened, P a happened → P' a happened) : x.Leaves P' := by
  intro w
  obtain ⟨a, w', happened, hrun, htree, hgrows, ha⟩ := hx w
  exact ⟨a, w', happened, hrun, htree, hgrows, h a happened ha⟩

/-- A report, and then the rest. -/
theorem report_bind {e : Event} {f : Unit → Work σ β}
    (hf : (f ()).Leaves fun b rest => R b (.event e :: rest)) : (Work.report e >>= f).Leaves R :=
  bind (P := fun _ happened => happened = [.event e])
    (fun _ => ⟨(), _, _, rfl, rfl, .of_note rfl rfl, rfl⟩) fun _ _ h => h ▸ hf

/-- A look at the world, and then the rest. -/
theorem world_bind {f : World σ → Work σ β} (hf : ∀ w, (f w).Leaves R) :
    (Work.world >>= f).Leaves R := by
  intro w
  rw [run_bind_of_some (run_world none w)]
  exact hf w w

/-- A line of the log, and then the rest. -/
theorem log_bind {line : LogLine} {f : Unit → Work σ β} (hf : (f ()).Leaves R) :
    (Work.log line >>= f).Leaves R :=
  bind (P := fun _ happened => happened = [])
    (fun w => ⟨(), _, _, rfl, rfl, .of_logs w.now [line] rfl, rfl⟩) fun _ _ h => h ▸ hf

end Work.Leaves

/-! ## Listings -/

section

variable (s : Services σ) (access : Access) (repository : Reference)

theorem Services.leaves_list : (s.list access repository).Leaves fun result happened =>
    happened = [.listing access repository] ∧ s.MayList access repository result := by
  intro w
  let reply := (s.listTags w.tree access repository w.services).1
  let w₁ : World σ := { w with journal := w.journal ++ [(w.now, .listing access repository)] }
  let w₂ : World σ := {
    now := w.now + reply.takes, tree := w.tree
    journal := w₁.journal ++ reply.notes.map fun line => (w.now, .log line)
    services := (s.listTags w.tree access repository w.services).2 }
  have hasked : w.Grows w₁ [.listing access repository] := .of_note rfl rfl
  have hlogged : w₁.Grows w₂ [] := .of_logs w.now reply.notes rfl
  refine ⟨reply.result, w₂, [.listing access repository] ++ [], ?_, rfl, hasked.trans hlogged,
    List.append_nil _, w.tree, w.services, rfl⟩
  simp only [list, Work.run_bind, Work.run_note, Work.run_world, Work.run_setWorld,
    Work.run_logAll, Work.run_pause_none]
  rfl

theorem leaves_taggedReferences (tags : List String) :
    (taggedReferences repository tags : Work σ _).Leaves fun result happened => happened = [] ∧
      ((∀ tag ∈ tags, Reference.isTag tag.toList = true) ∧
          result = .ok (tags.map (Meaning.tagged repository)) ∨
        ∃ tag ∈ tags, ∃ e, repository.withTag tag = .error e ∧ result = .error (.reference e)) := by
  induction tags with
  | nil => exact .pure ⟨rfl, .inl ⟨by simp, rfl⟩⟩
  | cons tag tags ih =>
      rw [taggedReferences]
      cases htag : repository.withTag tag with
      | error e =>
          exact .log_bind (.pure ⟨rfl, .inr ⟨tag, List.mem_cons_self, e, htag, rfl⟩⟩)
      | ok r =>
          obtain ⟨hvalid, rfl⟩ := Reference.withTag_eq_ok_iff.1 htag
          refine ih.bind fun result first h => ?_
          obtain ⟨rfl, ⟨hmore, rfl⟩ | ⟨bad, hbad, e, hinvalid, rfl⟩⟩ := h
          · exact .pure ⟨rfl, .inl ⟨List.forall_mem_cons.2 ⟨hvalid, hmore⟩, rfl⟩⟩
          · exact .pure ⟨rfl, .inr ⟨bad, List.mem_cons_of_mem _ hbad, e, hinvalid, rfl⟩⟩

theorem leaves_listImages :
    (listImages s access repository).Leaves (s.Listed access repository) := by
  refine .report_bind ((s.leaves_list access repository).bind fun result first h => ?_)
  obtain ⟨rfl, h⟩ := h
  cases result with
  | ok tags =>
      refine (leaves_taggedReferences repository tags).mono fun result rest hrest => ?_
      obtain ⟨rfl, ⟨hvalid, rfl⟩ | ⟨tag, htag, e, hinvalid, rfl⟩⟩ := hrest
      · exact .tags h hvalid
      · exact .malformed h htag hinvalid
  | error e =>
      dsimp only
      by_cases hrefusal : e.isRefusal = true
      · rw [if_pos hrefusal]
        exact .report_bind (.pure (.denied h hrefusal))
      · rw [if_neg hrefusal]
        exact .pure (.failed h (by simpa using hrefusal))

end

/-! ## Repositories -/

namespace Expansion

open Meaning (batch pinned?)

variable {s : Services σ} {base access : Access} {registry repository : String}
  {entry : RegistryEntry} {P : Option Batch → List Happening → Prop}

theorem leaves_skip {reason : SkipReason}
    (h : P none [.event (.repositorySkipped registry repository reason)]) :
    (skip registry repository reason : Work σ (Option Batch)).Leaves P :=
  .report_bind (.pure h)

/-- A repository with these images gets its batch and its verdict. -/
theorem leaves_finish {parsed : Reference} {images : List Reference}
    (h : P (batch access (some images)) [.event (verdict registry repository parsed images)]) :
    (finish registry repository parsed images access : Work σ _).Leaves P := by
  unfold finish
  cases images with
  | nil => exact leaves_skip h
  | cons image images => exact .report_bind (.pure h)

/-- Each text of a repository gives an image or is reported. -/
theorem leaves_declaredAll (parsed : Reference) (texts : List String) :
    (declaredAll registry repository parsed texts : Work σ _).Leaves fun images happened =>
      images = texts.filterMap (pinned? parsed) ∧
        happened = (texts.filterMap (refusal? registry repository parsed)).map .event := by
  induction texts with
  | nil => exact .pure ⟨rfl, rfl⟩
  | cons text texts ih =>
      have hpinned := Meaning.pinned?_eq_toOption parsed text
      rw [declaredAll]
      cases hdeclared : declared parsed text with
      | ok r =>
          rw [hdeclared] at hpinned
          refine ih.bind fun images first h => ?_
          obtain ⟨rfl, rfl⟩ := h
          refine .pure ⟨?_, ?_⟩
          · rw [List.filterMap_cons_some hpinned]
          · rw [List.append_nil, List.filterMap_cons_none (by simp [refusal?, hdeclared])]
      | error e =>
          rw [hdeclared] at hpinned
          refine .report_bind (ih.mono fun images rest h => ?_)
          obtain ⟨rfl, rfl⟩ := h
          refine ⟨?_, ?_⟩
          · rw [List.filterMap_cons_none hpinned]
          · rw [List.filterMap_cons_some (b := .refSkipped registry repository text e.message)
              (by simp [refusal?, hdeclared])]
            rfl

/-- A repository with tags and digests goes by the rules. -/
theorem leaves_ofImages (texts : List String) :
    (ofImages s registry (base.forEntry entry) repository texts).Leaves
      (Followed s base ⟨registry, entry, .images repository texts⟩) := by
  unfold ofImages
  cases h : Reference.parseRepository (registry ++ "/" ++ repository) with
  | error e => exact leaves_skip (.badName rfl h)
  | ok parsed =>
      cases texts with
      | nil =>
          refine (leaves_listImages s _ parsed).bind fun result first hlisted => ?_
          cases result with
          | error e => exact leaves_skip (.unlisted h hlisted)
          | ok images => exact leaves_finish (.listed h hlisted)
      | cons text texts =>
          refine (leaves_declaredAll parsed (text :: texts)).bind fun images first hdeclared => ?_
          obtain ⟨rfl, rfl⟩ := hdeclared
          exact leaves_finish (.declared (List.cons_ne_nil text texts) h)

/-- A repository with a pattern goes by the rules. -/
theorem leaves_ofPattern (text : String) :
    (ofPattern s registry (base.forEntry entry) repository text).Leaves
      (Followed s base ⟨registry, entry, .pattern repository text⟩) := by
  unfold ofPattern
  cases h : Reference.parseRepository (registry ++ "/" ++ repository) with
  | error e => exact leaves_skip (.badName rfl h)
  | ok parsed =>
      cases hpattern : s.pattern text with
      | error e => exact leaves_skip (.badPattern h hpattern)
      | ok accepts =>
          refine (leaves_listImages s _ parsed).bind fun result first hlisted => ?_
          cases result with
          | error e => exact leaves_skip (.unmatched h hpattern hlisted)
          | ok images => exact .report_bind (leaves_finish (.matched h hpattern hlisted))

/-! ## Registries -/

/-- Repositories of an entry are planned one after the other. -/
theorem leaves_collect (lineOf : String × α → Catalog.Line)
    {batchOf : String → α → Work σ (Option Batch)} {l : List (String × α)}
    (h : ∀ p, (batchOf p.1 p.2).Leaves (Followed s base (lineOf p))) :
    (collect batchOf l).Leaves (ImageSync.Followed s base (l.map lineOf)) := by
  induction l with
  | nil => exact .pure .nil
  | cons p l ih =>
      refine (h p).bind fun first happened hfirst => ih.bind fun others rest hothers => .pure ?_
      rw [List.append_nil]
      exact .append (.of_line hfirst) hothers

/-- An entry that names a repository is planned line by line. -/
theorem leaves_ofEntry (hnames : entry.namesNothing = false) :
    (ofEntry s base registry entry).Leaves (ImageSync.Followed s base
      (entry.subjects.map fun subject => ⟨registry, entry, subject⟩)) := by
  refine (leaves_collect (fun p => ⟨registry, entry, .images p.1 p.2⟩)
    fun p => leaves_ofImages p.2).bind fun listed first hlisted => ?_
  refine (leaves_collect (fun p => ⟨registry, entry, .pattern p.1 p.2⟩)
    fun p => leaves_ofPattern p.2).bind fun matched rest hmatched => .pure ?_
  have hsubjects : entry.subjects.map (fun subject => (⟨registry, entry, subject⟩ : Catalog.Line)) =
      entry.images.map (fun p => ⟨registry, entry, .images p.1 p.2⟩) ++
        entry.patterns.map fun p => ⟨registry, entry, .pattern p.1 p.2⟩ := by
    simp [RegistryEntry.subjects, hnames, Function.comp_def]
  rw [hsubjects, List.append_nil]
  exact hlisted.append hmatched

/-- The entries of a catalog are planned one after the other, behind what is planned already. -/
theorem leaves_ofEntries (s : Services σ) (base : Access) (plan : Plan)
    (entries : List (String × RegistryEntry)) :
    (ofEntries s base plan entries).Leaves fun plan' happened => ∃ batches,
      plan'.batches = plan.batches ++ batches ∧
      ImageSync.Followed s base (Catalog.lines ⟨entries⟩) batches happened := by
  induction entries generalizing plan with
  | nil => exact .pure ⟨[], (List.append_nil _).symm, .nil⟩
  | cons p entries ih =>
      obtain ⟨registry, entry⟩ := p
      have hlines : Catalog.lines ⟨(registry, entry) :: entries⟩ =
          entry.subjects.map (fun subject => ⟨registry, entry, subject⟩) ++
            Catalog.lines ⟨entries⟩ := rfl
      rw [ofEntries, hlines]
      by_cases hnames : entry.namesNothing = true
      · have hsubjects : entry.subjects = [.nothing] := by simp [RegistryEntry.subjects, hnames]
        rw [if_pos hnames, hsubjects]
        refine .report_bind ((ih plan).mono fun plan' rest h => ?_)
        obtain ⟨batches, hplan, hrest⟩ := h
        exact ⟨batches, hplan, .append (.of_line .nothing) hrest⟩
      · rw [if_neg hnames]
        refine (leaves_ofEntry (by simpa using hnames)).bind fun batches first hfirst => ?_
        refine (ih (plan.addAll batches)).mono fun plan' rest h => ?_
        obtain ⟨others, hplan, hrest⟩ := h
        refine ⟨batches ++ others, ?_, hfirst.append hrest⟩
        rw [hplan, Plan.batches_addAll, hfirst.filter_batches, List.append_assoc]

end Expansion

/-- The planning of a catalog goes through its lines in order. The plan has the batches that they
came to, and nothing happens besides. -/
theorem Plan.run_resolve_catalog (s : Services σ) (base : Access) {w : World σ} {source : String}
    {catalog : Catalog} (hload : Catalog.load w.tree source = .ok catalog) :
    ∃ plan w' happened, (resolve s base source .catalog).run none w = (some (.ok plan), w') ∧
      w'.tree = w.tree ∧ w.Grows w' happened ∧
      Followed s base catalog.lines plan.batches happened := by
  obtain ⟨plan, w', happened, hrun, htree, hgrows, batches, hplan, hfollowed⟩ :=
    Expansion.leaves_ofEntries s base .empty catalog.registries w
  refine ⟨plan, w', happened, ?_, htree, hgrows, hplan ▸ hfollowed⟩
  rw [resolve, ofCatalog, Work.run_bind_of_some (Work.run_world none w)]
  simp only [hload]
  rw [Work.run_bind_of_some hrun]
  rfl

end ImageSync
