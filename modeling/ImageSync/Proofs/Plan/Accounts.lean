import ImageSync.Proofs.Plan.Lines
import ImageSync.Proofs.Reference.RoundTrip
import ImageSync.Proofs.Run.Order

/-!
# Nothing that is declared disappears silently

Each line of a catalog ends with one verdict: a registry that names nothing is skipped, and a
repository is planned or skipped. What is planned is what the verdicts say, and of the texts of a
repository each gives an image or is reported.

## Main definitions

* `Event.isVerdict`: whether an event says what became of a line.
* `Expansion.Settled`: which event a line and its batch call for.

## Main statements

* `Expansion.Followed.settled`: each line has one verdict, and it comes last.
* `Plan.resolve_accounts`: the events of a resolution account for its catalog and its plan.
-/

namespace ImageSync

variable {σ : Type}

/-! ## Events -/

namespace Event

/-- Whether an event says what became of a registry or of a repository. -/
def isVerdict : Event → Bool
  | registrySkipped _ | repositorySkipped .. | repositoryPlanned .. => true
  | _ => false

/-- Whether an event says that a text was left out. -/
def isRefSkipped : Event → Bool
  | refSkipped .. => true
  | _ => false

/-- The registry that an event says was skipped. -/
def skippedRegistry? : Event → Option String
  | registrySkipped registry => some registry
  | _ => none

/-- The number of images that an event says were planned. -/
def plannedImages? : Event → Option Nat
  | repositoryPlanned _ images => some images
  | _ => none

theorem skippedRegistry?_of_not_isVerdict {e : Event} (h : e.isVerdict = false) :
    e.skippedRegistry? = none := by
  cases e <;> simp_all [isVerdict, skippedRegistry?]

theorem plannedImages?_of_not_isVerdict {e : Event} (h : e.isVerdict = false) :
    e.plannedImages? = none := by
  cases e <;> simp_all [isVerdict, plannedImages?]

end Event

/-! ## Verdicts -/

/-- The registry of a line for an entry that names nothing. -/
def Catalog.Line.unnamed? (line : Line) : Option String :=
  match line.subject with
  | .nothing => some line.registry
  | _ => none

namespace Expansion

open Meaning (batch pinned?)

/-- The event that a line with this batch calls for. -/
inductive Settled : Catalog.Line → Option Batch → Event → Prop
  | nothing {registry : String} {entry : RegistryEntry} :
      Settled ⟨registry, entry, .nothing⟩ none (.registrySkipped registry)
  | skipped {line : Catalog.Line} {repository : String} (reason : SkipReason)
      (h : line.subject.repository? = some repository) :
      Settled line none (.repositorySkipped line.registry repository reason)
  | planned {line : Catalog.Line} {repository : String} {parsed : Reference} {b : Batch}
      (h : line.subject.repository? = some repository)
      (hparsed : line.parsed repository = .ok parsed)
      (himages : ∀ image ∈ b.images, ∃ r : Reference,
        image = .inRegistry r ∧ r.repository = parsed.repository) :
      Settled line (some b) (.repositoryPlanned parsed.name b.images.length)

variable {s : Services σ} {base : Access} {line : Catalog.Line} {b : Option Batch}
  {happened : List Happening}

namespace Settled

variable {v : Event}

/-- A registry is skipped if its entry names nothing. -/
theorem skippedRegistry?_eq (h : Settled line b v) : v.skippedRegistry? = line.unnamed? := by
  have hnamed : ∀ {line : Catalog.Line} {repository : String},
      line.subject.repository? = some repository → line.unnamed? = none := by
    rintro ⟨registry, entry, _ | _ | _⟩ repository h
    · cases h
    · rfl
    · rfl
  cases h with
  | nothing => rfl
  | skipped reason h => rw [hnamed h]; rfl
  | planned h hparsed himages => rw [hnamed h]; rfl

/-- Images are planned as many as the batch has. -/
theorem plannedImages?_eq (h : Settled line b v) :
    v.plannedImages? = b.map fun b => b.images.length := by
  cases h <;> rfl

end Settled

/-- The verdict on a repository with these images is what its batch calls for. -/
theorem settled_verdict {registry repository : String} {entry : RegistryEntry}
    {subject : Catalog.Subject} {parsed : Reference} {images : List Reference} {access : Access}
    (h : subject.repository? = some repository)
    (hparsed : Reference.parseRepository (registry ++ "/" ++ repository) = .ok parsed)
    (himages : ∀ r ∈ images, r.repository = parsed.repository) :
    Settled ⟨registry, entry, subject⟩ (batch access (some images))
      (verdict registry repository parsed images) := by
  cases images with
  | nil => exact .skipped .nothingFound h
  | cons image images =>
      have hlength : (image :: images).length =
          ((image :: images).map Image.inRegistry).length := (List.length_map _).symm
      rw [verdict, if_neg (by simp), hlength]
      refine .planned (b := { images := (image :: images).map .inRegistry, access := access })
        h hparsed fun i hi => ?_
      obtain ⟨r, hr, rfl⟩ := List.mem_map.1 hi
      exact ⟨r, rfl, himages r hr⟩

/-- A listing comes to no verdict. -/
theorem isVerdict_of_listed {access : Access} {repository : Reference}
    {result : Except SyncError (List Reference)} (h : s.Listed access repository result happened) :
    ∀ e ∈ reported happened, e.isVerdict = false := by
  cases h <;> simp [asking, reported, Event.isVerdict]

/-- Each line has one verdict, and it comes last. -/
theorem Followed.settled (h : Followed s base line b happened) :
    ∃ before v, reported happened = before ++ [v] ∧ (∀ e ∈ before, e.isVerdict = false) ∧
      Settled line b v := by
  cases h with
  | nothing => exact ⟨[], _, rfl, by simp, .nothing⟩
  | badName hrepository h => exact ⟨[], _, rfl, by simp, .skipped _ hrepository⟩
  | badPattern h hpattern => exact ⟨[], _, rfl, by simp, .skipped _ rfl⟩
  | @declared registry repository entry texts parsed htexts h =>
      refine ⟨texts.filterMap (refusal? registry repository parsed), _, ?_, fun e he => ?_,
        settled_verdict rfl h fun r hr => ?_⟩
      · rw [reported_append]
        simp [reported, List.filterMap_map]
      · obtain ⟨text, -, hrefusal⟩ := List.mem_filterMap.1 he
        unfold refusal? at hrefusal
        split at hrefusal <;> cases hrefusal
        rfl
      · obtain ⟨text, -, hpinned⟩ := List.mem_filterMap.1 hr
        exact Meaning.repository_of_pinned? hpinned
  | unlisted h hlisted =>
      exact ⟨_, _, reported_append _ _, isVerdict_of_listed hlisted, .skipped _ rfl⟩
  | unmatched h hpattern hlisted =>
      exact ⟨_, _, reported_append _ _, isVerdict_of_listed hlisted, .skipped _ rfl⟩
  | listed h hlisted =>
      exact ⟨_, _, reported_append _ _, isVerdict_of_listed hlisted,
        settled_verdict rfl h hlisted.repository_eq⟩
  | @matched registry repository text entry parsed accepts images happened h hpattern hlisted =>
      refine ⟨reported happened ++ [.filteringTags parsed.name text], _, ?_,
        List.forall_mem_append.2 ⟨isVerdict_of_listed hlisted, by simp [Event.isVerdict]⟩,
        settled_verdict rfl h fun r hr => hlisted.repository_eq r (List.mem_of_mem_filter hr)⟩
      rw [reported_append, List.append_assoc]
      rfl

/-- A text gives an image, or there is a report that it is left out. -/
theorem length_refusals (registry repository : String) (parsed : Reference) (texts : List String) :
    (texts.filterMap (refusal? registry repository parsed)).length +
      (texts.filterMap (pinned? parsed)).length = texts.length := by
  induction texts with
  | nil => rfl
  | cons text texts ih =>
      have hpinned := Meaning.pinned?_eq_toOption parsed text
      cases hdeclared : declared parsed text with
      | ok r =>
          rw [hdeclared] at hpinned
          rw [List.filterMap_cons_some hpinned,
            List.filterMap_cons_none (by simp [refusal?, hdeclared]), List.length_cons,
            List.length_cons]
          omega
      | error e =>
          rw [hdeclared] at hpinned
          rw [List.filterMap_cons_none hpinned,
            List.filterMap_cons_some (b := .refSkipped registry repository text e.message)
              (by simp [refusal?, hdeclared]), List.length_cons, List.length_cons]
          omega

/-- Of the texts of a repository each gives an image or is left out with a report. -/
theorem Followed.length_texts {repository : String} {texts : List String} {parsed : Reference}
    (h : Followed s base line b happened) (hsubject : line.subject = .images repository texts)
    (htexts : texts ≠ []) (hparsed : line.parsed repository = .ok parsed) :
    (reported happened).countP Event.isRefSkipped + (b.elim 0 fun b => b.images.length) =
      texts.length := by
  cases h with
  | nothing => cases hsubject
  | badPattern => cases hsubject
  | unmatched => cases hsubject
  | matched => cases hsubject
  | unlisted => cases hsubject; exact absurd rfl htexts
  | listed => cases hsubject; exact absurd rfl htexts
  | badName hrepository h =>
      rw [hsubject] at hrepository
      cases hrepository
      rw [h] at hparsed
      cases hparsed
  | @declared registry repository entry texts parsed' _ h =>
      cases hsubject
      obtain rfl : parsed' = parsed := Except.ok.inj (h.symm.trans hparsed)
      have hrefusals : (texts.filterMap (refusal? registry repository parsed')).countP
          Event.isRefSkipped = (texts.filterMap (refusal? registry repository parsed')).length := by
        refine List.countP_eq_length.2 fun e he => ?_
        obtain ⟨text, -, hrefusal⟩ := List.mem_filterMap.1 he
        unfold refusal? at hrefusal
        split at hrefusal <;> cases hrefusal
        rfl
      have hverdict : ∀ images : List Reference,
          (verdict registry repository parsed' images).isRefSkipped = false := by
        intro images
        unfold verdict
        split <;> rfl
      have hbatch : ∀ images : List Reference, (batch (base.forEntry entry) (some images)).elim 0
          (fun b => b.images.length) = images.length := by
        intro images
        cases images <;> simp [batch]
      rw [reported_append, List.countP_append, hbatch,
        ← length_refusals registry repository parsed']
      simp [reported, List.filterMap_map, hrefusals, hverdict]

end Expansion

/-! ## Catalogs -/

namespace Catalog

/-- There is such a line for each entry that names nothing. -/
theorem filterMap_unnamed?_lines (c : Catalog) :
    c.lines.filterMap Line.unnamed? =
      (c.registries.filter fun p => p.2.namesNothing).map Prod.fst := by
  unfold lines
  induction c.registries with
  | nil => rfl
  | cons p rest ih =>
      rw [List.flatMap_cons, List.filterMap_append, ih, List.filter_cons]
      by_cases hnames : p.2.namesNothing = true
      · simp [RegistryEntry.subjects, hnames, Line.unnamed?]
      · have hnone : (p.2.subjects.map fun subject => (⟨p.1, p.2, subject⟩ : Line)).filterMap
            Line.unnamed? = [] := by
          refine List.filterMap_eq_nil_iff.2 fun line hline => ?_
          rw [RegistryEntry.subjects, if_neg hnames, List.map_append, List.map_map,
            List.map_map] at hline
          rcases List.mem_append.1 hline with hline | hline
          all_goals
            obtain ⟨_, -, rfl⟩ := List.mem_map.1 hline
            rfl
        simp [hnone, hnames]

end Catalog

namespace Outcome

/-- The number of images that a line contributes. -/
def imageCount (o : Outcome) : Nat := o.batch.elim 0 fun b => b.images.length

/-- Whether a line is reported as it should be: with one verdict, which comes last and is what its
batch calls for, and with a report for each of its texts that gives no image. -/
structure IsReported (o : Outcome) : Prop where
  settled : ∃ before v, reported o.happened = before ++ [v] ∧
    (∀ e ∈ before, e.isVerdict = false) ∧ Expansion.Settled o.line o.batch v
  length_texts : ∀ repository texts parsed, o.line.subject = .images repository texts →
    texts ≠ [] → o.line.parsed repository = .ok parsed →
    (reported o.happened).countP Event.isRefSkipped + o.imageCount = texts.length

theorem IsBy.isReported {s : Services σ} {base : Access} {o : Outcome} (h : o.IsBy s base) :
    o.IsReported where
  settled := h.settled
  length_texts _ _ _ hsubject htexts hparsed := h.length_texts hsubject htexts hparsed

/-- What the verdict of a line says, the events of the line say once. -/
theorem IsReported.filterMap_reported {α : Type} {o : Outcome} (h : o.IsReported)
    (said : Event → Option α) (meant : Outcome → Option α)
    (hother : ∀ e, e.isVerdict = false → said e = none)
    (hverdict : ∀ v, Expansion.Settled o.line o.batch v → said v = meant o) :
    (reported o.happened).filterMap said = (meant o).toList := by
  obtain ⟨before, v, hreported, hbefore, hsettled⟩ := h.settled
  have hnone : before.filterMap said = [] :=
    List.filterMap_eq_nil_iff.2 fun e he => hother e (hbefore e he)
  rw [hreported, List.filterMap_append, hnone, List.nil_append, ← hverdict v hsettled]
  cases hv : said v <;> simp [hv]

end Outcome

/-- What verdicts say, the events of all lines say once for each line, in order. -/
theorem filterMap_reported_flatMap {α : Type} (said : Event → Option α)
    (meant : Outcome → Option α) {outcomes : List Outcome}
    (h : ∀ o ∈ outcomes, o.IsReported) (hother : ∀ e, e.isVerdict = false → said e = none)
    (hverdict : ∀ o ∈ outcomes, ∀ v, Expansion.Settled o.line o.batch v → said v = meant o) :
    (reported (outcomes.flatMap Outcome.happened)).filterMap said = outcomes.filterMap meant := by
  induction outcomes with
  | nil => rfl
  | cons o rest ih =>
      have ho := (h o List.mem_cons_self).filterMap_reported said meant hother
        (hverdict o List.mem_cons_self)
      rw [List.flatMap_cons, reported_append, List.filterMap_append, ho,
        ih (fun o' ho' => h o' (List.mem_cons_of_mem o ho'))
          fun o' ho' => hverdict o' (List.mem_cons_of_mem o ho')]
      cases hmeant : meant o <;> simp [hmeant]

/-- The events of a resolution account for its catalog and its plan. Each line of the catalog is
reported as it should be. The registries that are skipped are those that name nothing, in order. The
batches of the plan are those of the repositories that are reported as planned, in order and with
the numbers of images that are reported. -/
theorem Plan.resolve_accounts (s : Services σ) (base : Access) {w : World σ} {source : String}
    {catalog : Catalog} (hload : Catalog.load w.tree source = .ok catalog) :
    ∃ (plan : Plan) (w' : World σ) (happened : List Happening) (outcomes : List Outcome),
      (resolve s base source .catalog).run none w = (some (.ok plan), w') ∧
      w.Grows w' happened ∧
      outcomes.map Outcome.line = catalog.lines ∧
      happened = outcomes.flatMap Outcome.happened ∧
      plan.batches = outcomes.filterMap Outcome.batch ∧
      (∀ o ∈ outcomes, o.IsReported) ∧
      (reported happened).filterMap Event.skippedRegistry? =
        (catalog.registries.filter fun p => p.2.namesNothing).map Prod.fst ∧
      (reported happened).filterMap Event.plannedImages? =
        plan.batches.map fun b => b.images.length := by
  obtain ⟨plan, w', happened, hrun, -, hgrows, outcomes, hlines, hplan, rfl, hby⟩ :=
    run_resolve_catalog s base hload
  have hreported : ∀ o ∈ outcomes, o.IsReported := fun o ho => (hby o ho).isReported
  refine ⟨plan, w', _, outcomes, hrun, hgrows, hlines, rfl, hplan, hreported, ?_, ?_⟩
  · rw [filterMap_reported_flatMap Event.skippedRegistry? (fun o => o.line.unnamed?) hreported
      (fun e => Event.skippedRegistry?_of_not_isVerdict) fun o _ v hv => hv.skippedRegistry?_eq,
      ← Catalog.filterMap_unnamed?_lines, ← hlines, List.filterMap_map]
    rfl
  · rw [filterMap_reported_flatMap Event.plannedImages?
      (fun o => o.batch.map fun b => b.images.length) hreported
      (fun e => Event.plannedImages?_of_not_isVerdict) fun o _ v hv => hv.plannedImages?_eq,
      hplan, List.map_filterMap]

namespace MixedCatalog

def text : String :=
  "empty.example: \x7b\x7d\nquay.io:\n  images:\n    z: [v1, \"?\"]\n    Z: [v1]\n" ++
    "  images-by-tag-regex:\n    z: v\n"

def world : World Unit where
  now := 0
  tree := {
    entries := [([Path.ofString "c"], .file (Text.Utf8.encode text.toList))]
    home := [] }
  journal := []
  services := ()

/-- What was written, with the repositories in their order. -/
def catalog : Catalog where
  registries := [("empty.example", {}),
    ("quay.io", { images := [("Z", ["v1"]), ("z", ["v1", "?"])], patterns := [("z", "v")] })]

/-- Services that list two tags and match every tag. -/
def services : Services Unit where
  listTags := fun _ _ _ state => ({ result := .ok ["v1", "w"] }, state)
  copy := fun _ tree state => ({ result := .ok () }, tree, state)
  pattern := fun _ => .ok fun _ => true

end MixedCatalog

/-- Of two registries one names nothing. The other one has a repository with a bad name, one of
which a text is left out, and a pattern. -/
theorem Plan.resolve_accounts_mixed :
    Catalog.load MixedCatalog.world.tree "c" = .ok MixedCatalog.catalog ∧
    ∃ (plan : Plan) (w' : World Unit) (happened : List Happening),
      (resolve MixedCatalog.services {} "c" .catalog).run none MixedCatalog.world =
        (some (.ok plan), w') ∧
      MixedCatalog.world.Grows w' happened ∧
      (reported happened).filterMap Event.skippedRegistry? = ["empty.example"] ∧
      (reported happened).filterMap Event.plannedImages? =
        plan.batches.map fun b => b.images.length := by
  have hload : Catalog.load MixedCatalog.world.tree "c" = .ok MixedCatalog.catalog :=
    Reference.eq_ok_of_toOption (by decide +kernel)
  obtain ⟨plan, w', happened, -, hrun, hgrows, -, -, -, -, hskipped, hplanned⟩ :=
    resolve_accounts MixedCatalog.services {} hload
  exact ⟨hload, plan, w', happened, hrun, hgrows, hskipped, hplanned⟩

end ImageSync
