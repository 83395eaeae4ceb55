import ImageSync.Proofs.Export.Untaken
import ImageSync.Proofs.Plan.Lines

/-!
# Images that are planned once

A line of a catalog plans an image of the repository that it names at most once. Nothing keeps two
lines from naming the same repository, and then an image may be planned twice, and a scoped run finds
the directory of the second one in place. Where the planned images are different, this does not
happen.

## Main definitions

* `Catalog.Line.named?`: the repository that a line names, with its name completed.
* `Catalog.Line.Gives`: what a line can plan.

## Main statements

* `Expansion.Followed.gives`: a line plans different images of one repository.
* `Plan.resolve_distinct`: when the images of a plan are different, and what follows for a run.
-/

namespace ImageSync

variable {σ : Type}

/-! ## The images of a line -/

namespace Catalog

/-- The repository that a line names, with its name completed. -/
def Line.named? (line : Line) : Option Reference :=
  line.subject.repository?.bind fun repository =>
    (line.parsed repository).toOption.map Reference.repository

/-- Whether a line can plan a batch: different images of the repository that it names. -/
def Line.Gives (line : Line) (b : Batch) : Prop :=
  ∃ (repository : Reference) (refs : List Reference), line.named? = some repository ∧
    b.images = refs.map .inRegistry ∧ refs.Nodup ∧
    ∀ r ∈ refs, r.WellFormed ∧ r.isRepository = false ∧ r.repository = repository

/-- The texts of a line are written under the name of its repository. -/
theorem mem_images_of_mem_lines {c : Catalog} {line : Line} {repository : String}
    {texts : List String} (h : line ∈ c.lines) (hsubject : line.subject = .images repository texts) :
    ∃ p ∈ c.registries, (repository, texts) ∈ p.2.images := by
  obtain ⟨p, hp, hline⟩ := List.mem_flatMap.1 h
  obtain ⟨subject, hmem, rfl⟩ := List.mem_map.1 hline
  obtain rfl : subject = .images repository texts := hsubject
  refine ⟨p, hp, ?_⟩
  unfold RegistryEntry.subjects at hmem
  split at hmem
  · simp at hmem
  · simpa using hmem

end Catalog

namespace Meaning

variable {parsed r : Reference} {text text' : String}

theorem tagged_injective (parsed : Reference) : Function.Injective (tagged parsed) := by
  intro a b h
  exact Option.some.inj (congrArg Reference.tag h)

/-- The text that an image was declared by is its digest or its tag. -/
theorem text_of_pinned? (h : pinned? parsed text = some r) :
    (r.digest.map Digest.text).or r.tag = some text := by
  unfold pinned? at h
  split at h
  · rename_i digest hdigest
    cases h
    exact congrArg some (Digest.text_of_parse hdigest)
  · split at h
    · cases h
      rfl
    · cases h

theorem eq_of_pinned? (h : pinned? parsed text = some r) (h' : pinned? parsed text' = some r) :
    text = text' :=
  Option.some.inj ((text_of_pinned? h).symm.trans (text_of_pinned? h'))

theorem wellFormed_tagged (hparsed : parsed.WellFormed) (htag : Reference.isTag text.toList = true) :
    (tagged parsed text).WellFormed ∧ (tagged parsed text).isRepository = false :=
  ⟨hparsed.withTag (Reference.withTag_eq_ok_iff.2 ⟨htag, rfl⟩), rfl⟩

theorem wellFormed_of_pinned? (hparsed : parsed.WellFormed) (h : pinned? parsed text = some r) :
    r.WellFormed ∧ r.isRepository = false := by
  unfold pinned? at h
  split at h
  · rename_i digest hdigest
    cases h
    exact ⟨hparsed.withDigest hdigest, rfl⟩
  · split at h
    · cases h
      exact wellFormed_tagged hparsed ‹_›
    · cases h

end Meaning

theorem Reference.WellFormed.of_parseRepository {input : String} {r : Reference}
    (h : parseRepository input = .ok r) : r.WellFormed := by
  unfold parseRepository at h
  split at h
  · cases h
  · rename_i hparse
    split at h
    · cases h
      exact .of_parse hparse
    · cases h

/-- A line plans different images of the repository that it names, if its texts are different and so
are listed tags. -/
theorem Expansion.Followed.gives {s : Services σ} {base : Access} {line : Catalog.Line} {b : Batch}
    {happened : List Happening} (h : Followed s base line (some b) happened)
    (htexts : ∀ repository texts, line.subject = .images repository texts → texts.Nodup)
    (htags : ∀ access repository tags, s.MayList access repository (.ok tags) → tags.Nodup) :
    line.Gives b := by
  obtain ⟨repository, parsed, images, hrepository, hparsed, -, rfl, hsame, horigin⟩ := h.of_some
  have hwf : parsed.WellFormed := .of_parseRepository hparsed
  have hnamed : line.named? = some parsed.repository := by
    simp [Catalog.Line.named?, hrepository, hparsed, Except.toOption]
  refine ⟨parsed.repository, images, hnamed, rfl, ?_, fun r hr => ?_⟩
  · rcases horigin with ⟨texts, hsubject, rfl⟩ | ⟨tags, hlisted, -, hsub⟩
    · exact (htexts repository texts hsubject).filterMap fun _ _ _ h h' => Meaning.eq_of_pinned? h h'
    · exact ((htags _ _ _ hlisted).map (Meaning.tagged_injective parsed)).sublist hsub
  · rw [← and_assoc]
    refine ⟨?_, hsame r hr⟩
    rcases horigin with ⟨texts, -, rfl⟩ | ⟨tags, -, hvalid, hsub⟩
    · obtain ⟨text, -, hpinned⟩ := List.mem_filterMap.1 hr
      exact Meaning.wellFormed_of_pinned? hwf hpinned
    · obtain ⟨tag, htag, rfl⟩ := List.mem_map.1 (hsub.subset hr)
      exact Meaning.wellFormed_tagged hwf (hvalid tag htag)

/-! ## The images of a plan -/

/-- The batches of lines, each with its line. -/
theorem Followed.exists_planned {s : Services σ} {base : Access} {lines : List Catalog.Line}
    {batches : List Batch} {happened : List Happening} (h : Followed s base lines batches happened)
    {P : Catalog.Line → Batch → Prop}
    (hP : ∀ line ∈ lines, ∀ b happened, Expansion.Followed s base line (some b) happened →
      P line b) :
    ∃ planned : List (Catalog.Line × Batch), (planned.map Prod.fst).Sublist lines ∧
      planned.map Prod.snd = batches ∧ ∀ x ∈ planned, P x.1 x.2 := by
  obtain ⟨outcomes, rfl, rfl, -, hby⟩ := h
  refine ⟨outcomes.filterMap fun o => o.batch.map fun b => (o.line, b), ?_, ?_, fun x hx => ?_⟩
  · induction outcomes with
    | nil => exact .slnil
    | cons o rest ih =>
        have hrest := ih (fun line hline => hP line (List.mem_cons_of_mem _ hline))
          fun o' ho' => hby o' (List.mem_cons_of_mem o ho')
        cases hbatch : o.batch with
        | none => simpa [hbatch] using hrest.cons o.line
        | some b => simpa [hbatch] using hrest.cons_cons o.line
  · rw [List.map_filterMap]
    congr 1
    funext o
    cases o.batch <;> rfl
  · obtain ⟨o, ho, hx⟩ := List.mem_filterMap.1 hx
    obtain ⟨b, hbatch, rfl⟩ := Option.map_eq_some_iff.1 hx
    have hfollowed := hby o ho
    rw [Outcome.IsBy, hbatch] at hfollowed
    exact hP o.line (List.mem_map_of_mem ho) b o.happened hfollowed

section Planned

variable {plan : Plan} {planned : List (Catalog.Line × Batch)}
  (hplanned : planned.map Prod.snd = plan.batches) (hgives : ∀ x ∈ planned, x.1.Gives x.2)

include hplanned

theorem Plan.images_eq_flatMap : plan.images = planned.flatMap fun x => x.2.images := by
  rw [images, ← hplanned, List.flatMap_map]

include hgives

/-- The images of a plan are different if and only if lines that name the same repository have no
image in common. -/
theorem Plan.nodup_images_iff : plan.images.Nodup ↔
    planned.Pairwise fun x y => x.1.named? = y.1.named? → x.2.images.Disjoint y.2.images := by
  have heach : ∀ x ∈ planned, x.2.images.Nodup := by
    intro x hx
    obtain ⟨repository, refs, -, hrefs, hnodup, -⟩ := hgives x hx
    exact hrefs ▸ hnodup.map inRegistry_injective
  -- an image tells the repository, and so the lines that it can come from
  have hsame : ∀ x ∈ planned, ∀ y ∈ planned, ∀ image ∈ x.2.images, image ∈ y.2.images →
      x.1.named? = y.1.named? := by
    intro x hx y hy image himage himage'
    obtain ⟨repository, refs, hnamed, hrefs, -, hall⟩ := hgives x hx
    obtain ⟨repository', refs', hnamed', hrefs', -, hall'⟩ := hgives y hy
    rw [hrefs] at himage
    rw [hrefs'] at himage'
    obtain ⟨r, hr, rfl⟩ := List.mem_map.1 himage
    obtain ⟨r', hr', heq⟩ := List.mem_map.1 himage'
    cases heq
    rw [hnamed, hnamed', ← (hall r hr).2.2, ← (hall' r hr').2.2]
  rw [images_eq_flatMap hplanned, List.nodup_flatMap]
  constructor
  · rintro ⟨-, hdisjoint⟩
    refine hdisjoint.imp fun {x y} h hsame => ?_
    exact h
  · intro hdisjoint
    refine ⟨heach, hdisjoint.imp_of_mem fun {x y} hx hy h image himage himage' => ?_⟩
    exact h (hsame x hx y hy image himage himage') himage himage'

/-- If no two lines name the same repository, the images of a plan are different. -/
theorem Plan.nodup_images {lines : List Catalog.Line}
    (hlines : (planned.map Prod.fst).Sublist lines)
    (hnamed : (lines.filterMap Catalog.Line.named?).Nodup) : plan.images.Nodup := by
  have hnodup := hnamed.sublist (hlines.filterMap Catalog.Line.named?)
  rw [List.filterMap_map, List.nodup_iff_pairwise_ne, List.pairwise_filterMap] at hnodup
  refine (nodup_images_iff hplanned hgives).2 (hnodup.imp_of_mem fun {x y} hx hy hne heq => ?_)
  obtain ⟨repository, -, hrepository, -⟩ := hgives x hx
  exact absurd rfl (hne repository hrepository repository (heq.symm.trans hrepository))

/-- The images of a plan lie in registries. -/
theorem Plan.exists_references : ∃ refs : List Reference, plan.images = refs.map .inRegistry ∧
    ∀ r ∈ refs, r.WellFormed ∧ r.isRepository = false := by
  rw [images_eq_flatMap hplanned]
  clear hplanned
  induction planned with
  | nil => exact ⟨[], rfl, by simp⟩
  | cons x rest ih =>
      obtain ⟨refs, hrest, hall⟩ := ih fun y hy => hgives y (List.mem_cons_of_mem x hy)
      obtain ⟨repository, first, -, hfirst, -, heach⟩ := hgives x List.mem_cons_self
      have himages : ∀ r ∈ first, r.WellFormed ∧ r.isRepository = false := fun r hr =>
        ⟨(heach r hr).1, (heach r hr).2.1⟩
      exact ⟨first ++ refs, by simp [hfirst, hrest], List.forall_mem_append.2 ⟨himages, hall⟩⟩

end Planned

/-! ## Catalogs -/

/-- The planning of a catalog without repeated texts, with listings without repeated tags. Each line
plans different images of the repository that it names. So the images of the plan are different if
and only if lines that name the same repository plan no image in common, and in any case if no two
lines name the same repository. If they are different, a scoped run into a root that does not exist
never fails because a directory exists, as long as copies stay inside the directory that they are
given. The root must not be empty, and each `..` of it must stand behind a way to a directory. -/
theorem Plan.resolve_distinct (s : Services σ) (base : Access) {w : World σ} {source : String}
    {catalog : Catalog} (hload : Catalog.load w.tree source = .ok catalog)
    (htexts : ∀ p ∈ catalog.registries, ∀ image ∈ p.2.images, image.2.Nodup)
    (htags : ∀ access repository tags, s.MayList access repository (.ok tags) → tags.Nodup) :
    ∃ (plan : Plan) (w₁ : World σ) (planned : List (Catalog.Line × Batch)),
      (resolve s base source .catalog).run none w = (some (.ok plan), w₁) ∧
      (planned.map Prod.fst).Sublist catalog.lines ∧ planned.map Prod.snd = plan.batches ∧
      (∀ x ∈ planned, x.1.Gives x.2) ∧
      (plan.images.Nodup ↔ planned.Pairwise fun x y =>
        x.1.named? = y.1.named? → x.2.images.Disjoint y.2.images) ∧
      ((catalog.lines.filterMap Catalog.Line.named?).Nodup → plan.images.Nodup) ∧
      (plan.images.Nodup → s.CopiesInside → w.tree.WellFormed →
        ∀ (root : String) (options : RunOptions) (cut : Option Nat), root ≠ "" →
          w.tree.stat (Path.ofString root) = .error .notFound →
          w.tree.Climbs (Path.ofString root) → options.sourceTransport = .catalog →
          options.destinationTransport = .folder → options.sourceAccess = base →
          options.isScoped = true →
          ∃ result w', (s.run source root options).run cut w = (some result, w') ∧
            ∀ path, result ≠ .error (.failed (.destinationExists path))) := by
  obtain ⟨plan, w₁, happened, hrun, htree, -, hfollowed⟩ := run_resolve_catalog s base hload
  have hlines : ∀ line ∈ catalog.lines, ∀ b happened,
      Expansion.Followed s base line (some b) happened → line.Gives b := by
    intro line hline b happened h
    refine h.gives (fun repository texts hsubject => ?_) htags
    obtain ⟨p, hp, himage⟩ := Catalog.mem_images_of_mem_lines hline hsubject
    exact htexts p hp _ himage
  obtain ⟨planned, hsublist, hplanned, hgives⟩ := hfollowed.exists_planned hlines
  refine ⟨plan, w₁, planned, hrun, hsublist, hplanned, hgives, nodup_images_iff hplanned hgives,
    nodup_images hplanned hgives hsublist, ?_⟩
  intro hnodup hs hwf root options cut hroot hmissing hclimbs hsource hfolder hbase hscoped
  obtain ⟨refs, hrefs, hall⟩ := exists_references hplanned hgives
  rw [hrefs] at hnodup
  refine s.run_untaken hs (by rw [hsource, hfolder]; rfl) (by rw [hsource, hbase]; exact hrun) htree
    hall (hnodup.of_map _) hrefs hroot hscoped hfolder hwf hmissing hclimbs cut

namespace OneRegistry

/-- A catalog with tags of one repository and a pattern for the tags of another one. -/
def text (tags : List String) (other : String) : String :=
  "quay.io:\n  images:\n    app: [" ++ String.intercalate ", " tags ++
    "]\n  images-by-tag-regex:\n    " ++ other ++ ": v1\n"

/-- What was written. -/
def catalog (tags : List String) (other : String) : Catalog where
  registries := [("quay.io", { images := [("app", tags)], patterns := [(other, "v1")] })]

def world (tags : List String) (other : String) (entries : List (Place × Entry)) : World Unit where
  now := 0
  tree := {
    entries :=
      ([Path.ofString "c"], .file (Text.Utf8.encode (text tags other).toList)) :: entries
    home := [] }
  journal := []
  services := ()

/-- Two repositories, with two tags of one of them. -/
def apart : World Unit := world ["v1", "v2"] "web" []

/-- The same repository in both places. -/
def twice : World Unit := world ["v1"] "app" []

/-- A world with the directory of one image. -/
def holding : World Unit := world ["v1"] "web"
  [([Path.ofString "quay.io"], .folder), (["quay.io", "web:v1"].map Path.ofString, .folder)]

/-- An empty manifest, in a directory that has none. -/
def writeManifest (tree : FileTree) : Image → FileTree
  | .inRegistry _ => tree
  | .inFolder path =>
    match tree.find path true with
    | .ok (a, .folder) =>
      if tree.get? (a ++ [manifestName]) = none then tree.add (a ++ [manifestName]) (.file [])
      else tree
    | _ => tree

/-- Services that list one tag, with what a copy does to the tree. -/
def services (copied : FileTree → Image → FileTree) : Services Unit where
  listTags := fun _ _ _ state => ({ result := .ok ["v1"] }, state)
  copy := fun job tree state => ({ result := .ok () }, copied tree job.destination, state)
  pattern := fun _ => .ok fun tag => tag == "v1"

def writing : Services Unit := services writeManifest

/-- Services that make a directory elsewhere, whatever is copied. -/
def straying : Services Unit :=
  services fun tree _ => tree.add (["out", "quay.io", "web:v1"].map Path.ofString) .folder

def options : RunOptions where
  sourceTransport := .catalog
  destinationTransport := .folder
  isScoped := true

theorem nodup_of_mayList {copied : FileTree → Image → FileTree} {access : Access}
    {repository : Reference} {tags : List String}
    (h : (services copied).MayList access repository (.ok tags)) : tags.Nodup := by
  obtain ⟨tree, state, h⟩ := h
  cases h
  decide

theorem wellFormed_tree (tags : List String) (other : String) :
    (world tags other []).tree.WellFormed := by
  refine ⟨⟨?nodup, ?proper, ?inFolder, ?home⟩, rfl⟩
  case nodup => simp [world]
  case proper =>
    have hname : Path.IsProper (Path.ofString "c") := by constructor <;> decide
    simpa [world] using hname
  case inFolder =>
    intro p hp
    rw [List.mem_singleton.1 hp]
    exact ⟨by simp, rfl⟩
  case home => rfl

theorem copiesInside_writing : writing.CopiesInside := by
  intro job tree state path hjob hwf
  have hcopy : (writing.copy job tree state).2.1 = writeManifest tree (.inFolder path) := by
    rw [← hjob]
    rfl
  rw [hcopy]
  unfold writeManifest
  dsimp only
  split
  · rename_i a hfind
    split
    · rename_i hfree
      obtain ⟨-, -, k, -, hleads⟩ := FileTree.leads_of_find hfind
      have hfolder : tree.get? a = some .folder := hwf.folder_of_leads hleads
      refine ⟨hwf.add FileTree.isProper_manifestName hfolder hfree _, rfl, fun q hq => ?_⟩
      by_cases hnil : q = []
      · rw [hnil]
        rfl
      · have hne : q ≠ a ++ [manifestName] := by
          rintro rfl
          simpa using hq a hfind (List.prefix_append a _)
        rw [FileTree.get?_add tree _ _ hnil, if_neg hne, Option.or_none]
    · exact ⟨hwf, rfl, fun _ _ => rfl⟩
  · exact ⟨hwf, rfl, fun _ _ => rfl⟩

/-- The batches that are planned. -/
def planned? (s : Services Unit) (w : World Unit) : Option (List Batch) :=
  match (Plan.resolve s options.sourceAccess "c" options.sourceTransport).run none w with
  | (some (.ok plan), _) => some plan.batches
  | _ => none

/-- The error that work ends with. -/
def errorOf? {α : Type} : Option (Except (Halt SyncError) α) × World Unit → Option SyncError
  | (some (.error (.failed e)), _) => some e
  | _ => none

/-- The error of a run. -/
def failure? (s : Services Unit) (w : World Unit) (root : String) : Option SyncError :=
  errorOf? ((s.run "c" root options).run none w)

/-- One image of each of the two repositories. -/
def batches (other : String) : List Batch :=
  ["app", other].map fun name =>
    { images := [.inRegistry ⟨"quay.io", name, some "v1", none⟩], access := {} }

/-- A run fails with the error of copying what is planned. -/
theorem failure?_of_batches {s : Services Unit} {w : World Unit} {root : String} {e : SyncError}
    {batches : List Batch} (hplanned : planned? s w = some batches)
    (hcopies : errorOf? ((executeBatches s root options batches).run none
      ((Plan.resolve s options.sourceAccess "c" options.sourceTransport).run none w).2) = some e) :
    failure? s w root = some e := by
  unfold planned? at hplanned
  split at hplanned
  · rename_i plan w₁ hresolve
    obtain rfl : plan.batches = batches := Option.some.inj hplanned
    rw [hresolve] at hcopies
    have hexecute : ∃ w₂, (executeBatches s root options plan.batches).run none w₁ =
        (some (.error (.failed e)), w₂) := by
      unfold errorOf? at hcopies
      split at hcopies
      · rename_i w₂ hrun
        exact ⟨w₂, by rw [hrun, Option.some.inj hcopies]⟩
      · cases hcopies
    obtain ⟨w₂, hexecute⟩ := hexecute
    have hcompatible : areCompatible options.sourceTransport options.destinationTransport = true :=
      rfl
    rw [failure?, Services.run, if_pos hcompatible, Services.plan,
      Work.run_bind_of_some (Work.run_retrying_of_ok hresolve)]
    simp only [Plan.execute, if_pos hcompatible]
    rw [Work.run_bind_of_some hexecute]
    rfl
  · cases hplanned

/-- All that makes up a tree, in a form that can be compared. -/
def parts (t : FileTree) : List (Place × Entry) × Place × Nat × Option Nat × Option Nat :=
  (t.entries, t.home, t.removed, t.limits.name, t.limits.path)

theorem parts_injective : Function.Injective parts := by
  intro t t' h
  cases t with | @mk entries home removed limits =>
  cases t' with | @mk entries' home' removed' limits' =>
  cases limits
  cases limits'
  cases h
  rfl

/-- Copies fail with the error of the batches behind the first one, once it is carried out. -/
theorem errorOf?_cons {s : Services Unit} {w : World Unit} {root : String} {e : SyncError}
    {batch : Batch} {rest : List Batch} (tree : FileTree)
    (hfirst : ((batch.execute s root options).run none w).1 = some (.ok ()))
    (htree : parts ((batch.execute s root options).run none w).2.tree = parts tree)
    (hrest : errorOf? ((executeBatches s root options rest).run none
      { ((batch.execute s root options).run none w).2 with tree := tree }) = some e) :
    errorOf? ((executeBatches s root options (batch :: rest)).run none w) = some e := by
  generalize hrun : (batch.execute s root options).run none w = out at *
  obtain ⟨_, w'⟩ := out
  obtain rfl := hfirst
  obtain rfl := parts_injective htree
  rw [executeBatches, Work.run_bind_of_some hrun]
  exact hrest

end OneRegistry

/-- Three images of two repositories, and a root that does not exist. -/
theorem Plan.resolve_distinct_three :
    Catalog.load OneRegistry.apart.tree "c" = .ok (OneRegistry.catalog ["v1", "v2"] "web") ∧
    ∃ (plan : Plan) (w₁ : World Unit),
      (resolve OneRegistry.writing {} "c" .catalog).run none OneRegistry.apart =
        (some (.ok plan), w₁) ∧
      plan.images.Nodup ∧
      ∃ result w', (OneRegistry.writing.run "c" "out" OneRegistry.options).run none
          OneRegistry.apart = (some result, w') ∧
        ∀ path, result ≠ .error (.failed (.destinationExists path)) := by
  have hload : Catalog.load OneRegistry.apart.tree "c" =
      .ok (OneRegistry.catalog ["v1", "v2"] "web") :=
    Reference.eq_ok_of_toOption (by decide +kernel)
  obtain ⟨plan, w₁, -, hrun, -, -, -, -, hnodup, huntaken⟩ :=
    resolve_distinct OneRegistry.writing {} hload (by decide)
      fun _ _ _ => OneRegistry.nodup_of_mayList
  have hdistinct : plan.images.Nodup := hnodup (by decide +kernel)
  have hclimbs : OneRegistry.apart.tree.Climbs (Path.ofString "out") := by
    intro front back hsegments
    have hup : Path.upName ∉ Path.segments (Path.ofString "out") := by decide
    exact absurd (by simp [hsegments]) hup
  exact ⟨hload, plan, w₁, hrun, hdistinct,
    huntaken hdistinct OneRegistry.copiesInside_writing (OneRegistry.wellFormed_tree _ _) "out"
      OneRegistry.options none (by decide) rfl hclimbs rfl rfl rfl rfl⟩

/-- A repository that is named by its tags and by a pattern, without any repetition in the catalog
and in the listings, has one image planned twice, and the second copy finds the directory of the
first. Where the planned images are different, a copy finds a directory in place if the root is the
empty text, if a step `..` of it stands behind a name that is missing, or if copies make directories
elsewhere. -/
theorem Plan.resolve_repeats :
    ((OneRegistry.twice.tree.stat (Path.ofString "out") = .error .notFound ∧
        Catalog.load OneRegistry.twice.tree "c" = .ok (OneRegistry.catalog ["v1"] "app") ∧
        (∀ p ∈ (OneRegistry.catalog ["v1"] "app").registries, ∀ image ∈ p.2.images,
          image.2.Nodup) ∧
        ∀ access repository tags, OneRegistry.writing.MayList access repository (.ok tags) →
          tags.Nodup) ∧
      OneRegistry.planned? OneRegistry.writing OneRegistry.twice =
        some (OneRegistry.batches "app") ∧
      ¬((OneRegistry.batches "app").flatMap Batch.images).Nodup ∧
      OneRegistry.failure? OneRegistry.writing OneRegistry.twice "out" =
        some (.destinationExists "out/quay.io/app:v1")) ∧
    ((OneRegistry.batches "web").flatMap Batch.images).Nodup ∧
    (OneRegistry.holding.tree.stat (Path.ofString "") = .error .notFound ∧
      OneRegistry.planned? OneRegistry.writing OneRegistry.holding =
        some (OneRegistry.batches "web") ∧
      OneRegistry.failure? OneRegistry.writing OneRegistry.holding "" =
        some (.destinationExists "quay.io/web:v1")) ∧
    (OneRegistry.holding.tree.stat (Path.ofString "new/..") = .error .notFound ∧
      OneRegistry.planned? OneRegistry.writing OneRegistry.holding =
        some (OneRegistry.batches "web") ∧
      OneRegistry.failure? OneRegistry.writing OneRegistry.holding "new/.." =
        some (.destinationExists "new/../quay.io/web:v1")) ∧
    ((OneRegistry.world ["v1"] "web" []).tree.stat (Path.ofString "out") = .error .notFound ∧
      OneRegistry.planned? OneRegistry.straying (OneRegistry.world ["v1"] "web" []) =
        some (OneRegistry.batches "web") ∧
      OneRegistry.failure? OneRegistry.straying (OneRegistry.world ["v1"] "web" []) "out" =
        some (.destinationExists "out/quay.io/web:v1")) := by
  have hholding : OneRegistry.planned? OneRegistry.writing OneRegistry.holding =
      some (OneRegistry.batches "web") := by decide +kernel
  refine ⟨?repeated, by decide, ?emptyRoot, ?upwards, ?strayed⟩
  case repeated =>
    have hplanned : OneRegistry.planned? OneRegistry.writing OneRegistry.twice =
        some (OneRegistry.batches "app") := by decide +kernel
    exact ⟨⟨rfl, Reference.eq_ok_of_toOption (by decide +kernel), by decide,
      fun _ _ _ => OneRegistry.nodup_of_mayList⟩, hplanned, by decide,
      OneRegistry.failure?_of_batches hplanned (by decide +kernel)⟩
  case emptyRoot =>
    exact ⟨rfl, hholding, OneRegistry.failure?_of_batches hholding (by decide +kernel)⟩
  case upwards =>
    let after : FileTree := { OneRegistry.holding.tree with
      entries := OneRegistry.holding.tree.entries ++
        [([Path.ofString "new"], .folder), (["quay.io", "app:v1"].map Path.ofString, .folder),
          (["quay.io", "app:v1"].map Path.ofString ++ [manifestName], .file [])] }
    exact ⟨by decide +kernel, hholding, OneRegistry.failure?_of_batches hholding
      (OneRegistry.errorOf?_cons after (by decide +kernel) (by decide +kernel) (by decide +kernel))⟩
  case strayed =>
    have hplanned : OneRegistry.planned? OneRegistry.straying (OneRegistry.world ["v1"] "web" []) =
        some (OneRegistry.batches "web") := by decide +kernel
    let before := (OneRegistry.world ["v1"] "web" []).tree
    let after : FileTree := { before with
      entries := before.entries ++
        ([["out"], ["out", "quay.io"], ["out", "quay.io", "app:v1"],
          ["out", "quay.io", "web:v1"]].map fun names => (names.map Path.ofString, .folder)) }
    exact ⟨rfl, hplanned, OneRegistry.failure?_of_batches hplanned
      (OneRegistry.errorOf?_cons after (by decide +kernel) (by decide +kernel) (by decide +kernel))⟩

end ImageSync
