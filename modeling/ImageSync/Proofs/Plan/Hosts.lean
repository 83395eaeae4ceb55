import ImageSync.Proofs.Plan.Cut
import ImageSync.Proofs.Plan.Lines
import ImageSync.Proofs.Reference.RoundTrip

/-!
# Hosts that an entry is used for

Name of the registry and name of the repository are put together and read as one reference. So the
access of an entry is used for the host that its name begins with, if this can only be a host. If it
can be a namespace it is taken for one, and the access is used for the default registry.

## Main definitions

* `Catalog.namedHost registry`: the host that the name of a registry begins with.
* `Outcome.StaysAt base host`: a line for which the access of its entry is used for one host only.

## Main statements

* `Catalog.Line.host_eq`: the host of a repository.
* `Plan.resolve_hosts`: the hosts that the entries of a catalog are used for.
* `Plan.resolve_leaves_host`: credentials that are used for another host than the one they stand for.
-/

namespace ImageSync

open Text

variable {σ : Type}

/-! ## Names of registries -/

namespace Catalog

/-- What stands before the first slash in the name of a registry. -/
def firstComponent (registry : String) : List Char := registry.toList.takeWhile fun c => c != '/'

/-- The host that the name of a registry begins with, in its present spelling. -/
def namedHost (registry : String) : String :=
  let first := String.ofList (firstComponent registry)
  if first = Reference.legacyHost then Reference.defaultHost else first

/-- The host that the name of a registry is taken for. -/
def host (registry : String) : String :=
  if Reference.looksLikeHost (firstComponent registry) then namedHost registry
  else Reference.defaultHost

end Catalog

/-- A text with a slash behind it is cut before its first slash. -/
theorem splitFirst_takeWhile (l rest : List Char) :
    ∃ behind, splitFirst '/' (l ++ '/' :: rest) = some (l.takeWhile fun c => c != '/', behind) := by
  induction l with
  | nil => exact ⟨rest, by simp [splitFirst]⟩
  | cons c l ih =>
      by_cases hc : c = '/'
      · exact ⟨l ++ '/' :: rest, by simp [splitFirst, hc]⟩
      · obtain ⟨behind, hsplit⟩ := ih
        exact ⟨behind, by simp [splitFirst, hc, hsplit]⟩

namespace Reference

/-- The host of a registry and a repository that are read together. -/
theorem splitHost_joined (registry repository : String) :
    (splitHost (registry ++ "/" ++ repository).toList).1 = (Catalog.host registry).toList := by
  obtain ⟨behind, hsplit⟩ := splitFirst_takeWhile registry.toList repository.toList
  have htext : (registry ++ "/" ++ repository).toList =
      registry.toList ++ '/' :: repository.toList := by simp
  have hlegacy : String.ofList (Catalog.firstComponent registry) = legacyHost ↔
      Catalog.firstComponent registry = legacyHost.toList := by
    rw [← String.toList_inj, String.toList_ofList]
  rw [htext]
  unfold splitHost Catalog.host Catalog.namedHost
  by_cases hlooks : looksLikeHost (Catalog.firstComponent registry) = true
  · have hlooks' : looksLikeHost (registry.toList.takeWhile fun c => c != '/') = true := hlooks
    simp only [hsplit, hlooks, hlooks', if_true, hlegacy, apply_ite Prod.fst,
      apply_ite String.toList, String.toList_ofList, ite_self]
    rfl
  · have hlooks' : ¬looksLikeHost (registry.toList.takeWhile fun c => c != '/') = true := hlooks
    simp only [hsplit, hlooks, hlooks', apply_ite Prod.fst, ite_self]
    rfl

end Reference

/-! ## Lines -/

/-- A repository of a registry lies on the host that the name of the registry is taken for. -/
theorem Catalog.host_eq {registry repository : String} {parsed : Reference}
    (h : Reference.parseRepository (registry ++ "/" ++ repository) = .ok parsed) :
    parsed.host = host registry := by
  unfold Reference.parseRepository at h
  split at h
  · cases h
  · next r hparse =>
    split at h <;> cases h
    rw [Reference.host_of_parse hparse, Reference.splitHost_joined, String.ofList_toList]

/-- A line for which the access of its entry is used for one host only: the listings that are asked
for with it and the images that are planned with it. -/
structure Outcome.StaysAt (base : Access) (host : String) (o : Outcome) : Prop where
  listings : ∀ access repository, .listing access repository ∈ o.happened →
    access = base.forEntry o.line.entry ∧ repository.host = host
  images : ∀ b, o.batch = some b → b.access = base.forEntry o.line.entry ∧
    ∀ image ∈ b.images, ∃ r : Reference, image = .inRegistry r ∧ r.host = host

/-- What is asked for in a listing. -/
theorem Services.Listed.eq_of_mem {s : Services σ} {access access' : Access}
    {repository repository' : Reference} {result : Except SyncError (List Reference)}
    {happened : List Happening} (h : s.Listed access repository result happened)
    (hmem : .listing access' repository' ∈ happened) :
    access' = access ∧ repository' = repository := by
  cases h <;> simpa [asking] using hmem

/-- The listing that is asked for on a line. -/
theorem Expansion.Followed.of_mem {s : Services σ} {base access : Access} {line : Catalog.Line}
    {b : Option Batch} {repository : Reference} {happened : List Happening}
    (h : Followed s base line b happened) (hmem : .listing access repository ∈ happened) :
    access = base.forEntry line.entry ∧
      ∃ name, line.subject.repository? = some name ∧ line.parsed name = .ok repository := by
  cases h with
  | nothing => simp at hmem
  | badName => simp at hmem
  | declared => simp at hmem
  | badPattern => simp at hmem
  | unlisted h hlisted =>
      obtain ⟨rfl, rfl⟩ := hlisted.eq_of_mem (by simpa using hmem)
      exact ⟨rfl, _, rfl, h⟩
  | listed h hlisted =>
      obtain ⟨rfl, rfl⟩ := hlisted.eq_of_mem (by simpa using hmem)
      exact ⟨rfl, _, rfl, h⟩
  | unmatched h hpattern hlisted =>
      obtain ⟨rfl, rfl⟩ := hlisted.eq_of_mem (by simpa using hmem)
      exact ⟨rfl, _, rfl, h⟩
  | matched h hpattern hlisted =>
      obtain ⟨rfl, rfl⟩ := hlisted.eq_of_mem (by simpa using hmem)
      exact ⟨rfl, _, rfl, h⟩

theorem Outcome.IsBy.staysAt {s : Services σ} {base : Access} {o : Outcome} (h : o.IsBy s base) :
    o.StaysAt base (Catalog.host o.line.registry) where
  listings access repository hmem := by
    obtain ⟨haccess, name, -, hparsed⟩ := Expansion.Followed.of_mem h hmem
    exact ⟨haccess, Catalog.host_eq hparsed⟩
  images b hb := by
    have hfollowed : Expansion.Followed s base o.line (some b) o.happened := hb ▸ h
    obtain ⟨name, parsed, images, -, hparsed, -, rfl, hrepository, -⟩ := hfollowed.of_some
    refine ⟨rfl, fun image himage => ?_⟩
    obtain ⟨r, hr, rfl⟩ := List.mem_map.1 himage
    refine ⟨r, rfl, ?_⟩
    have hhost := congrArg Reference.host (hrepository r hr)
    rw [← Catalog.host_eq hparsed]
    exact hhost

/-! ## Catalogs -/

/-- A cut during the planning of a source only leaves out what would happen later. -/
theorem Plan.resolve_cut (s : Services σ) (base : Access) {w w₁ : World σ} {source : String}
    {transport : SourceTransport} {whole : Option (Except SyncError Plan)}
    {happened : List Happening} (hrun : (resolve s base source transport).run none w = (whole, w₁))
    (hgrows : w.Grows w₁ happened) {T : Nat} (hT : w.now < T) :
    ∃ result w' seen, (resolve s base source transport).run (some T) w = (result, w') ∧
      w.Grows w' seen ∧ seen <+: happened ∧ (result = none ∨ result = whole) := by
  obtain ⟨r, w₂, hbreaks, -⟩ := breakable_resolve s base source transport w
  obtain ⟨rfl, rfl⟩ := Prod.mk.inj (hrun.symm.trans hbreaks.run_none)
  by_cases hlater : w₁.now < T
  · exact ⟨_, w₁, happened, hbreaks.run_some hlater, hgrows, List.prefix_refl _, .inr rfl⟩
  · obtain ⟨w', hcut, ⟨early, hearly, -⟩, late, hlate, -⟩ :=
      hbreaks.run_cut T hT (Nat.le_of_not_lt hlater)
    obtain ⟨all, hall, rfl⟩ := hgrows
    have hsplit : all = early ++ late :=
      List.append_cancel_left (by rw [← hall, hlate, hearly, List.append_assoc])
    refine ⟨none, w', deeds early, hcut, ⟨early, hearly, rfl⟩, ?_, .inl rfl⟩
    rw [hsplit, deeds_append]
    exact List.prefix_append _ _

/-- In the planning of a catalog the access of an entry is used for one host only: that which the
name of its registry begins with, if this can only be a host, and else the default registry. A cut
only leaves out what would happen later. -/
theorem Plan.resolve_hosts (s : Services σ) (base : Access) {w : World σ} {source : String}
    {catalog : Catalog} (hload : Catalog.load w.tree source = .ok catalog) :
    ∃ (plan : Plan) (w₁ : World σ) (happened : List Happening) (outcomes : List Outcome),
      (resolve s base source .catalog).run none w = (some (.ok plan), w₁) ∧
      w.Grows w₁ happened ∧
      outcomes.map Outcome.line = catalog.lines ∧
      plan.batches = outcomes.filterMap Outcome.batch ∧
      happened = outcomes.flatMap Outcome.happened ∧
      (∀ o ∈ outcomes, o.StaysAt base
        (if Reference.looksLikeHost (Catalog.firstComponent o.line.registry) then
          Catalog.namedHost o.line.registry else Reference.defaultHost)) ∧
      ∀ T, w.now < T → ∃ result w' seen,
        (resolve s base source .catalog).run (some T) w = (result, w') ∧
        w.Grows w' seen ∧ seen <+: happened ∧ (result = none ∨ result = some (.ok plan)) := by
  obtain ⟨plan, w₁, happened, hrun, -, hgrows, outcomes, hlines, hplan, hhappened, hby⟩ :=
    run_resolve_catalog s base hload
  exact ⟨plan, w₁, happened, outcomes, hrun, hgrows, hlines, hplan, hhappened,
    fun o ho => (hby o ho).staysAt, fun T hT => resolve_cut s base hrun hgrows hT⟩

namespace ShortName

def text : String :=
  "registry:\n  images:\n    app: [v1]\n    web: []\n" ++
    "  credentials:\n    username: u\n    password: p\n"

def world : World Unit where
  now := 0
  tree := {
    entries := [([Path.ofString "c"], .file (Text.Utf8.encode text.toList))]
    home := [] }
  journal := []
  services := ()

def credentials : Credentials := ⟨"u", "p"⟩

/-- What was written. -/
def catalog : Catalog where
  registries := [("registry",
    { images := [("app", ["v1"]), ("web", [])], credentials := credentials })]

/-- Services that refuse to list. -/
def services : Services Unit where
  listTags := fun _ _ _ state => ({ result := .error (.refused "no") }, state)
  copy := fun _ tree state => ({ result := .ok () }, tree, state)
  pattern := fun _ => .error "no pattern"

/-- The credentials that are used in the planning of the catalog and the hosts that they are used
for: by the images that are planned, and by the listings that are asked for. -/
def uses : List (Option Credentials × Image) × List (Option Credentials × String) :=
  let (result, w) := (Plan.resolve services {} "c" .catalog).run none world
  let batches := ((result.bind Except.toOption).map Plan.batches).getD []
  (batches.flatMap fun b => b.images.map fun image => (b.access.credentials, image),
    (deeds w.journal).filterMap fun
      | .listing access repository => some (access.credentials, repository.host)
      | _ => none)

end ShortName

/-- An entry of which the name can be a namespace is used for the default registry only. -/
theorem Plan.resolve_hosts_short :
    Catalog.load ShortName.world.tree "c" = .ok ShortName.catalog ∧
    ∃ (plan : Plan) (w₁ : World Unit) (outcomes : List Outcome),
      (resolve ShortName.services {} "c" .catalog).run none ShortName.world =
        (some (.ok plan), w₁) ∧
      outcomes.map Outcome.line = ShortName.catalog.lines ∧
      plan.batches = outcomes.filterMap Outcome.batch ∧
      ∀ o ∈ outcomes, o.StaysAt {} "docker.io" := by
  have hload : Catalog.load ShortName.world.tree "c" = .ok ShortName.catalog :=
    Reference.eq_ok_of_toOption (by decide +kernel)
  obtain ⟨plan, w₁, happened, outcomes, hrun, -, hlines, hplan, -, hstays, -⟩ :=
    resolve_hosts ShortName.services {} hload
  refine ⟨hload, plan, w₁, outcomes, hrun, hlines, hplan, fun o ho => ?_⟩
  have hregistry : ∀ line ∈ ShortName.catalog.lines, line.registry = "registry" := by decide
  have hline : o.line ∈ ShortName.catalog.lines := hlines ▸ List.mem_map_of_mem ho
  have hhost := hstays o ho
  rwa [hregistry o.line hline, if_neg (by decide)] at hhost

/-- The name of a registry that can be a namespace is taken for one. The credentials for `registry`
are used for the default registry. -/
theorem Plan.resolve_leaves_host :
    Catalog.namedHost "registry" = "registry" ∧
    ShortName.uses =
      ([(some ShortName.credentials, .inRegistry ⟨"docker.io", "registry/app", some "v1", none⟩)],
        [(some ShortName.credentials, "docker.io")]) := by
  decide +kernel

end ImageSync
