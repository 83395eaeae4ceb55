import ImageSync.CommandLine.Settings
import ImageSync.Proofs.Plan.Hosts

/-!
# Settings of an entry

Certificates and verification are settings of a registry. In a catalog each entry has its own, and
those of the run count for nothing. Only credentials are taken from the run, where an entry has none.
Each listing and each image belongs to a repository that a line of the catalog names, and the access
for it has the settings of the entry in which this line stands. What is said for registries is said
for container daemons, too.

## Main definitions

* `Access.FitsEntry base entry a`: access with the settings of an entry.
* `Access.InStep a`: access that treats registries and daemons alike.
* `Catalog.Line.Covers base line access r`: a repository that a line names, with the settings of the
  entry in which the line stands.

## Main statements

* `Expansion.ofEntries_congr`: what the plan of a catalog depends on.
* `Plan.resolve_settings`: the settings that are used in the planning of a catalog.
-/

namespace ImageSync

open CommandLine (SideFlags)

variable {σ : Type}

theorem Credentials.isEmpty_iff {c : Credentials} : c.isEmpty = true ↔ c = {} := by
  obtain ⟨username, password⟩ := c
  simp [isEmpty]

namespace Access

/-- Access with the settings of an entry: the peer goes unverified exactly if the entry says so, and
credentials are those of the entry or, if it has none, those of the run. -/
structure FitsEntry (base : Access) (entry : RegistryEntry) (a : Access) : Prop where
  skips_iff : a.skipsVerification = true ↔ entry.verify = some false
  certDir_eq : a.certDir = entry.certDir
  credentials_eq :
    a.credentials = if entry.credentials = {} then base.credentials else some entry.credentials

/-- Access that treats registries and daemons alike. -/
structure InStep (a : Access) : Prop where
  certDir_eq : a.daemonCertDir = a.certDir
  skips_iff : a.daemonSkipVerify = true ↔ a.skipVerify = some true

theorem fitsEntry_forEntry (base : Access) (entry : RegistryEntry) :
    base.FitsEntry entry (base.forEntry entry) where
  skips_iff := by
    cases h : entry.verify <;> simp [skipsVerification, RegistryEntry.skipVerify, h, skipOfVerify]
  certDir_eq := rfl
  credentials_eq := by simp only [forEntry, Credentials.isEmpty_iff]

theorem inStep_forEntry (base : Access) (entry : RegistryEntry) : (base.forEntry entry).InStep where
  certDir_eq := rfl
  skips_iff := beq_iff_eq

end Access

/-- So is the access that the arguments of a command ask for. -/
theorem SideFlags.inStep_of_access {f : SideFlags} {a : Access} (h : f.access = .ok a) :
    a.InStep := by
  unfold SideFlags.access at h
  cases hcredentials : f.readCredentials with
  | error e => simp [hcredentials, Bind.bind, Except.bind] at h
  | ok credentials =>
      simp only [hcredentials, Bind.bind, Except.bind] at h
      split at h
      · cases h
      · cases h
        refine ⟨rfl, ?_⟩
        cases f.verify <;> simp

/-! ## What a plan depends on -/

section

variable (s : Services σ) {base base' : Access}

/-- The plan of a catalog depends on the access of the run only through that of the entries. -/
theorem Expansion.ofEntries_congr (h : ∀ entry, base.forEntry entry = base'.forEntry entry)
    (plan : Plan) (entries : List (String × RegistryEntry)) :
    ofEntries s base plan entries = ofEntries s base' plan entries := by
  induction entries generalizing plan with
  | nil => rfl
  | cons p entries ih =>
      have hentry : ofEntry s base p.1 p.2 = ofEntry s base' p.1 p.2 := by
        unfold ofEntry
        rw [h p.2]
      simp only [ofEntries, hentry, ih]

theorem Plan.resolve_congr (h : ∀ entry, base.forEntry entry = base'.forEntry entry)
    (source : String) : resolve s base source .catalog = resolve s base' source .catalog := by
  unfold resolve ofCatalog
  simp only [Expansion.ofEntries_congr s h]

end

/-! ## Settings that are used -/

/-- Access to the repository that a line names, on the host of its registry, with the settings of the
entry in which the line stands. Tag and digest of the reference do not count. -/
structure Catalog.Line.Covers (base : Access) (line : Catalog.Line) (access : Access)
    (r : Reference) : Prop where
  named : ∃ name parsed, line.subject.repository? = some name ∧ line.parsed name = .ok parsed ∧
    r.repository = parsed.repository
  host_eq : r.host = Catalog.host line.registry
  fits : base.FitsEntry line.entry access
  inStep : access.InStep

namespace Outcome.IsBy

variable {s : Services σ} {base : Access} {o : Outcome}

theorem covers_listing (h : o.IsBy s base) {access : Access} {repository : Reference}
    (hmem : .listing access repository ∈ o.happened) : o.line.Covers base access repository := by
  obtain ⟨rfl, name, hname, hparsed⟩ := Expansion.Followed.of_mem h hmem
  exact ⟨⟨name, repository, hname, hparsed, rfl⟩, (h.staysAt.listings _ _ hmem).2,
    base.fitsEntry_forEntry o.line.entry, base.inStep_forEntry o.line.entry⟩

theorem covers_image (h : o.IsBy s base) {b : Batch} (hb : o.batch = some b) :
    b.images ≠ [] ∧
      ∀ image ∈ b.images, ∃ r, image = .inRegistry r ∧ o.line.Covers base b.access r := by
  have hfollowed : Expansion.Followed s base o.line (some b) o.happened := hb ▸ h
  obtain ⟨name, parsed, images, hname, hparsed, hne, rfl, hrepository, -⟩ := hfollowed.of_some
  refine ⟨by simpa using hne, fun image himage => ?_⟩
  obtain ⟨r, hr, rfl⟩ := List.mem_map.1 himage
  have hhost := congrArg Reference.host (hrepository r hr)
  exact ⟨r, rfl, ⟨name, parsed, hname, hparsed, hrepository r hr⟩,
    (show r.host = parsed.host from hhost).trans (Catalog.host_eq hparsed),
    base.fitsEntry_forEntry o.line.entry, base.inStep_forEntry o.line.entry⟩

end Outcome.IsBy

/-- Certificates and verification in the planning of a catalog are those of its entries. What the
run says about them changes nothing: the same listings are asked for with the same access, the same
is reported and the same is planned. Each listing that is asked for on a line and each image that is
planned there is of the repository that the line names, on the host of its registry, and the access
for it has the settings of the entry in which the line stands. It treats registries and daemons alike,
as any access does that is made for an entry or comes from the arguments of a command. -/
theorem Plan.resolve_settings (s : Services σ) (base : Access) :
    (∀ (certDir daemonCertDir : Option String) (skipVerify : Option Bool) (daemonSkipVerify : Bool)
        (source : String) (cut : Option Nat) (w : World σ),
      (resolve s { base with
        certDir := certDir, daemonCertDir := daemonCertDir, skipVerify := skipVerify
        daemonSkipVerify := daemonSkipVerify } source .catalog).run cut w =
      (resolve s base source .catalog).run cut w) ∧
    (∀ (w : World σ) (source : String) (catalog : Catalog),
      Catalog.load w.tree source = .ok catalog →
      ∃ (plan : Plan) (w₁ : World σ) (happened : List Happening) (outcomes : List Outcome),
        (resolve s base source .catalog).run none w = (some (.ok plan), w₁) ∧
        w.Grows w₁ happened ∧
        outcomes.map Outcome.line = catalog.lines ∧
        plan.batches = outcomes.filterMap Outcome.batch ∧
        happened = outcomes.flatMap Outcome.happened ∧
        (∀ o ∈ outcomes, ∀ access repository, .listing access repository ∈ o.happened →
          o.line.Covers base access repository) ∧
        (∀ o ∈ outcomes, ∀ b, o.batch = some b → b.images ≠ [] ∧
          ∀ image ∈ b.images, ∃ r, image = .inRegistry r ∧ o.line.Covers base b.access r) ∧
        ∀ T, w.now < T → ∃ result w' seen,
          (resolve s base source .catalog).run (some T) w = (result, w') ∧
          w.Grows w' seen ∧ seen <+: happened ∧ (result = none ∨ result = some (.ok plan))) ∧
    (∀ (f : SideFlags) (a : Access), f.access = .ok a → a.InStep) ∧
    ∀ (run : Access) (entry : RegistryEntry), (run.forEntry entry).InStep := by
  refine ⟨fun certDir daemonCertDir skipVerify daemonSkipVerify source cut w => ?_,
    fun w source catalog hload => ?_, fun f a h => SideFlags.inStep_of_access h,
    Access.inStep_forEntry⟩
  · have hsame : resolve s { base with
        certDir := certDir, daemonCertDir := daemonCertDir, skipVerify := skipVerify
        daemonSkipVerify := daemonSkipVerify } source .catalog = resolve s base source .catalog := by
      refine resolve_congr s (fun entry => ?_) source
      rfl
    rw [hsame]
  · obtain ⟨plan, w₁, happened, hrun, -, hgrows, outcomes, hlines, hplan, hhappened, hby⟩ :=
      run_resolve_catalog s base hload
    exact ⟨plan, w₁, happened, outcomes, hrun, hgrows, hlines, hplan, hhappened,
      fun o ho access repository hmem => (hby o ho).covers_listing hmem,
      fun o ho b hb => (hby o ho).covers_image hb, fun T hT => resolve_cut s base hrun hgrows hT⟩

namespace UnverifiedEntry

def text : String :=
  "quay.io:\n  images:\n    app: [v1]\n  tls-verify: false\n  cert-dir: /certs\n"

def world : World Unit where
  now := 0
  tree := {
    entries := [([Path.ofString "c"], .file (Text.Utf8.encode text.toList))]
    home := [] }
  journal := []
  services := ()

/-- What was written. -/
def catalog : Catalog where
  registries := [("quay.io",
    { images := [("app", ["v1"])], verify := some false, certDir := some "/certs" })]

/-- The access of the run, with settings that say otherwise. -/
def base : Access where
  certDir := some "/run"
  skipVerify := some false
  credentials := some ⟨"u", "p"⟩

end UnverifiedEntry

/-- An entry that is not to be verified, in a run that verifies. Its image is planned with its
settings. -/
theorem Plan.resolve_settings_unverified :
    Catalog.load UnverifiedEntry.world.tree "c" = .ok UnverifiedEntry.catalog ∧
    ∃ plan w₁, (resolve ShortName.services UnverifiedEntry.base "c" .catalog).run none
        UnverifiedEntry.world = (some (.ok plan), w₁) ∧
      plan.batches.map Batch.images = [[.inRegistry ⟨"quay.io", "app", some "v1", none⟩]] ∧
      ∀ b ∈ plan.batches, b.access.skipsVerification = true ∧ b.access.certDir = some "/certs" ∧
        b.access.daemonCertDir = some "/certs" ∧ b.access.credentials = some ⟨"u", "p"⟩ := by
  have hload : Catalog.load UnverifiedEntry.world.tree "c" = .ok UnverifiedEntry.catalog :=
    Reference.eq_ok_of_toOption (by decide +kernel)
  have himages : (((Plan.resolve ShortName.services UnverifiedEntry.base "c" .catalog).run none
      UnverifiedEntry.world).1.bind Except.toOption).map (fun plan => plan.batches.map Batch.images) =
      some [[.inRegistry ⟨"quay.io", "app", some "v1", none⟩]] := by
    decide +kernel
  obtain ⟨-, hused, -, -⟩ := resolve_settings ShortName.services UnverifiedEntry.base
  obtain ⟨plan, w₁, happened, outcomes, hrun, -, hlines, hplan, -, -, hcovers, -⟩ :=
    hused UnverifiedEntry.world "c" UnverifiedEntry.catalog hload
  rw [hrun] at himages
  refine ⟨hload, plan, w₁, hrun, Option.some.inj himages, fun b hb => ?_⟩
  rw [hplan] at hb
  obtain ⟨o, ho, hbatch⟩ := List.mem_filterMap.1 hb
  have hentries : ∀ line ∈ UnverifiedEntry.catalog.lines,
      line.entry.verify = some false ∧ line.entry.certDir = some "/certs" ∧
        line.entry.credentials = {} := by
    decide
  obtain ⟨hverify, hcerts, hcredentials⟩ :=
    hentries o.line (hlines ▸ List.mem_map_of_mem ho)
  obtain ⟨hne, himage⟩ := hcovers o ho b hbatch
  obtain ⟨image, hmem⟩ := List.exists_mem_of_ne_nil _ hne
  obtain ⟨r, -, hcovered⟩ := himage image hmem
  refine ⟨hcovered.fits.skips_iff.2 hverify, hcovered.fits.certDir_eq.trans hcerts, ?_, ?_⟩
  · rw [hcovered.inStep.certDir_eq, hcovered.fits.certDir_eq, hcerts]
  · rw [hcovered.fits.credentials_eq, if_pos hcredentials]
    rfl

end ImageSync
