import ImageSync.Proofs.Run.Retried
import ImageSync.Run.Execute

/-!
# The plan of a source in a registry

A source that names an image is planned without asking anybody. A source that names a repository is
planned from its tags. They are asked for once in each attempt, and the answer to the last attempt
alone decides what the plan is. With the largest number of retries there is at most one attempt, and an
overflow behind it if another one would be needed.

## Main definitions

* `tagRequests journal`: who was asked for tags, with the instants.
* `Services.answer`: the answers of the service that lists tags, call after call.
* `Plan.OfAnswer`: what each answer leads to.
* `Plan.OfEnd`: what the end of all attempts leads to.

## Main statements

* `Plan.run_ofRegistry`: one attempt to plan a repository.
* `Services.plan_registry`: all attempts.
* `Services.plan_registry_overflows`: a repository that would have been planned at the second attempt.
-/

namespace ImageSync

variable {σ : Type}

/-! ## Requests -/

/-- The request for tags that something is, if it is one. -/
def tagRequest? : Nat × Happening → Option (Nat × Access × Reference)
  | (now, .listing access repository) => some (now, access, repository)
  | _ => none

/-- The requests for tags in a journal, with their instants. -/
def tagRequests (journal : List (Nat × Happening)) : List (Nat × Access × Reference) :=
  journal.filterMap tagRequest?

@[simp] theorem tagRequests_append (a b : List (Nat × Happening)) :
    tagRequests (a ++ b) = tagRequests a ++ tagRequests b :=
  List.filterMap_append

@[simp] theorem tagRequests_event (now : Nat) (e : Event) : tagRequests [(now, .event e)] = [] := rfl

@[simp] theorem tagRequests_listing (now : Nat) (access : Access) (repository : Reference) :
    tagRequests [(now, .listing access repository)] = [(now, access, repository)] := rfl

@[simp] theorem tagRequests_log (now : Nat) (line : LogLine) :
    tagRequests [(now, .log line)] = [] := rfl

@[simp] theorem tagRequests_logs (now : Nat) (lines : List LogLine) :
    tagRequests (lines.map fun line => (now, .log line)) = [] := by
  simp [tagRequests, tagRequest?]

/-! ## Answers -/

namespace Services

variable (s : Services σ) (tree : FileTree) (access : Access) (repository : Reference) (state : σ)

/-- The state of the services before call `i` for the tags of a repository. -/
def stateBefore : Nat → σ
  | 0 => state
  | i + 1 => (s.listTags tree access repository (stateBefore i)).2

/-- The answer to call `i`, and the state behind it. -/
def answer (i : Nat) : Reply RegistryError (List String) × σ :=
  s.listTags tree access repository (s.stateBefore tree access repository state i)

end Services

/-- The images that an answer stands for. -/
inductive Reference.OfAnswer (repository : Reference) :
    Except RegistryError (List String) → Except SyncError (List Reference) → Prop
  | tags {tags : List String} {references : List Reference}
      (h : tags.map repository.withTag = references.map .ok) :
      OfAnswer repository (.ok tags) (.ok references)
  | badTag {front tag back e} (hfront : ∀ t ∈ front, ∃ r, repository.withTag t = .ok r)
      (htag : repository.withTag tag = .error e) :
      OfAnswer repository (.ok (front ++ tag :: back)) (.error (.reference e))
  | refused {e} (h : e.isRefusal = true) : OfAnswer repository (.error e) (.ok [])
  | failed {e} (h : e.isRefusal = false) :
      OfAnswer repository (.error e) (.error (.listing repository.name e))

/-- The plan that an answer to the request for the tags of a repository leads to. -/
inductive Plan.OfAnswer (source : String) (access : Access) (repository : Reference) :
    Except RegistryError (List String) → Except SyncError Plan → Prop
  /-- One batch, with the image of each tag in the order of the answer. -/
  | planned {tags : List String} {references : List Reference} {plan : Plan} (hne : tags ≠ [])
      (htags : tags.map repository.withTag = references.map .ok)
      (hplan : plan.batches = [{ images := references.map .inRegistry, access := access }]) :
      OfAnswer source access repository (.ok tags) (.ok plan)
  /-- The first malformed tag. -/
  | badTag {front tag back e} (hfront : ∀ t ∈ front, ∃ r, repository.withTag t = .ok r)
      (htag : repository.withTag tag = .error e) :
      OfAnswer source access repository (.ok (front ++ tag :: back)) (.error (.reference e))
  /-- No tags at all. -/
  | nothing : OfAnswer source access repository (.ok []) (.error (.noImages source))
  /-- A refusal counts as no tags. -/
  | refused (text : String) :
      OfAnswer source access repository (.error (.refused text)) (.error (.noImages source))
  | failed {e} (h : ∀ text, e ≠ .refused text) :
      OfAnswer source access repository (.error e) (.error (.listing repository.name e))

/-- The plan that the end of all requests for the tags of a repository leads to. -/
inductive Plan.OfEnd (source : String) (access : Access) (repository : Reference) :
    Except (Halt RegistryError) (List String) → Except (Halt SyncError) Plan → Prop
  | answered {answer planned} (h : OfAnswer source access repository answer planned) :
      OfEnd source access repository (answer.mapError .failed) (planned.mapError .failed)
  | overflow : OfEnd source access repository (.error .overflow) (.error .overflow)

/-! ## One attempt -/

/-- The world `w'` is `w` after this time and with these services, and these requests for tags have
been made in between. -/
structure World.Asks (w w' : World σ) (takes : Nat) (services : σ)
    (requests : List (Nat × Access × Reference)) : Prop where
  now : w'.now = w.now + takes
  tree : w'.tree = w.tree
  services : w'.services = services
  requests : tagRequests w'.journal = tagRequests w.journal ++ requests

namespace World.Asks

variable {w w' w'' : World σ} {takes : Nat} {services : σ}
  {requests : List (Nat × Access × Reference)}

/-- What happens at once and is no request changes nothing. -/
theorem of_journal (h : tagRequests w'.journal = tagRequests w.journal) (hnow : w'.now = w.now)
    (htree : w'.tree = w.tree) (hservices : w'.services = w.services) :
    w.Asks w' 0 w.services [] :=
  ⟨hnow, htree, hservices, by rw [h, List.append_nil]⟩

theorem before (h : w.Asks w' 0 w.services []) (h' : w'.Asks w'' takes services requests) :
    w.Asks w'' takes services requests where
  now := by rw [h'.now, h.now, Nat.add_zero]
  tree := h'.tree.trans h.tree
  services := h'.services
  requests := by rw [h'.requests, h.requests, List.append_nil]

theorem behind (h : w.Asks w' takes services requests) (h' : w'.Asks w'' 0 w'.services []) :
    w.Asks w'' takes services requests where
  now := by rw [h'.now, h.now, Nat.add_zero]
  tree := h'.tree.trans h.tree
  services := h'.services.trans h.services
  requests := by rw [h'.requests, h.requests, List.append_nil]

end World.Asks

theorem asks_event (e : Event) (w : World σ) :
    w.Asks { w with journal := w.journal ++ [(w.now, .event e)] } 0 w.services [] :=
  .of_journal (by simp) rfl rfl rfl

theorem asks_log (line : LogLine) (w : World σ) :
    w.Asks { w with journal := w.journal ++ [(w.now, .log line)] } 0 w.services [] :=
  .of_journal (by simp) rfl rfl rfl

section

variable (s : Services σ) (access : Access) (repository : Reference)

theorem Services.run_list (w : World σ) :
    ∃ w', (s.list access repository).run none w =
        (some (s.listTags w.tree access repository w.services).1.result, w') ∧
      w.Asks w' (s.listTags w.tree access repository w.services).1.takes
        (s.listTags w.tree access repository w.services).2 [(w.now, access, repository)] := by
  let answer := s.listTags w.tree access repository w.services
  let w' : World σ := {
    now := w.now + answer.1.takes, tree := w.tree
    journal := w.journal ++ [(w.now, .listing access repository)] ++
      answer.1.notes.map fun line => (w.now, .log line)
    services := answer.2 }
  refine ⟨w', ?_, rfl, rfl, rfl, by
    simp only [w', tagRequests_append, tagRequests_listing, tagRequests_logs, List.append_nil]⟩
  simp only [list, Work.run_bind, Work.run_note, Work.run_world, Work.run_setWorld,
    Work.run_logAll, Work.run_pause_none]
  rfl

/-- Listed tags are all turned into images, or the first malformed one is told. -/
theorem run_taggedReferences (tags : List String) (w : World σ) :
    ∃ result w', (taggedReferences repository tags).run none w = (some result, w') ∧
      repository.OfAnswer (.ok tags) result ∧ w.Asks w' 0 w.services [] := by
  induction tags generalizing w with
  | nil => exact ⟨.ok [], w, rfl, .tags rfl, .of_journal rfl rfl rfl rfl⟩
  | cons tag tags ih =>
      rw [taggedReferences]
      cases htag : repository.withTag tag with
      | error e =>
          have hfront : ∀ t ∈ ([] : List String), ∃ r, repository.withTag t = .ok r := by simp
          exact ⟨_, _, rfl, .badTag hfront htag, asks_log _ w⟩
      | ok r =>
          obtain ⟨result, w', hrun, hresult, hasks⟩ := ih w
          simp only [Work.run_bind_of_some hrun]
          generalize hanswer : Except.ok tags = answer at hresult
          cases hresult with
          | tags htags =>
              cases hanswer
              exact ⟨_, w', rfl, .tags (by simp [htag, htags]), hasks⟩
          | @badTag front bad back e hfront hbad =>
              cases hanswer
              have hmore : ∀ t ∈ tag :: front, ∃ r, repository.withTag t = .ok r :=
                List.forall_mem_cons.2 ⟨⟨r, htag⟩, hfront⟩
              exact ⟨_, w', rfl, .badTag hmore hbad, hasks⟩
          | refused => cases hanswer
          | failed => cases hanswer

/-- The service is asked once, and its answer gives the images. -/
theorem run_listImages (w : World σ) :
    ∃ result w', (listImages s access repository).run none w = (some result, w') ∧
      repository.OfAnswer (s.listTags w.tree access repository w.services).1.result result ∧
      w.Asks w' (s.listTags w.tree access repository w.services).1.takes
        (s.listTags w.tree access repository w.services).2 [(w.now, access, repository)] := by
  have hreport := asks_event (.listingTags repository.name) w
  obtain ⟨w', hlist, hasks⟩ := s.run_list access repository
    { w with journal := w.journal ++ [(w.now, .event (.listingTags repository.name))] }
  have hlisted := hreport.before hasks
  rw [listImages, Work.run_bind_of_some (Work.run_report ..), Work.run_bind_of_some hlist]
  cases (s.listTags w.tree access repository w.services).1.result with
  | ok tags =>
      obtain ⟨result, w'', hrun, hresult, hrest⟩ := run_taggedReferences repository tags w'
      exact ⟨result, w'', hrun, hresult, hlisted.behind hrest⟩
  | error e =>
      by_cases hrefusal : e.isRefusal = true
      · simp only [hrefusal, if_true]
        exact ⟨.ok [], _, rfl, .refused hrefusal, hlisted.behind (asks_event _ w')⟩
      · simp only [hrefusal]
        exact ⟨_, w', rfl, .failed (by simpa using hrefusal), hlisted⟩

end

variable (s : Services σ) (base : Access) (source : String)

/-- A text that is no reference is refused, and nobody is asked. -/
theorem Plan.run_ofRegistry_of_error {e : ReferenceError} (h : Reference.parse source = .error e)
    (w : World σ) :
    (ofRegistry s base source).run none w = (some (.error (.reference e)), w) := by
  rw [ofRegistry, h]
  rfl

/-- A source that names an image is planned as it is, and nobody is asked. -/
theorem Plan.run_ofRegistry_of_image {named : Reference} (h : Reference.parse source = .ok named)
    (himage : named.isRepository = false) (w : World σ) :
    ∃ plan w', (ofRegistry s base source).run none w = (some (.ok plan), w') ∧
      plan.batches = [{ images := [.inRegistry named], access := base }] ∧
      w.Asks w' 0 w.services [] := by
  rw [ofRegistry, h]
  simp only [himage, Bool.false_eq_true, if_false]
  rw [Work.run_bind_of_some (Work.run_report ..)]
  exact ⟨_, _, rfl, rfl, asks_event _ w⟩

/-- A source that names a repository is planned from the answer of the service, which is asked
once. -/
theorem Plan.run_ofRegistry {named : Reference} (h : Reference.parse source = .ok named)
    (hrepository : named.isRepository = true) (w : World σ) :
    ∃ result w', (ofRegistry s base source).run none w = (some result, w') ∧
      OfAnswer source base named (s.listTags w.tree base named w.services).1.result result ∧
      w.Asks w' (s.listTags w.tree base named w.services).1.takes
        (s.listTags w.tree base named w.services).2 [(w.now, base, named)] := by
  have hreport := asks_event (.tagChecked source (!named.isRepository)) w
  obtain ⟨result, w', hlist, hresult, hasks⟩ := run_listImages s base named
    { w with journal := w.journal ++ [(w.now, .event (.tagChecked source (!named.isRepository)))] }
  have hlisted := hreport.before hasks
  rw [ofRegistry, h]
  dsimp only
  rw [Work.run_bind_of_some (Work.run_report ..), if_pos hrepository, Work.run_bind_of_some hlist]
  have hanswer : named.OfAnswer (s.listTags w.tree base named w.services).1.result result := hresult
  generalize (s.listTags w.tree base named w.services).1.result = outcome at hanswer ⊢
  cases hanswer with
  | @tags tags references htags =>
      have hlength : tags.length = references.length := by
        simpa using congrArg List.length htags
      cases references with
      | nil =>
          obtain rfl : tags = [] := List.length_eq_zero_iff.1 hlength
          exact ⟨_, w', rfl, .nothing, hlisted⟩
      | cons r references =>
          have hne : tags ≠ [] := by
            rintro rfl
            cases hlength
          exact ⟨_, w', rfl, .planned hne htags rfl, hlisted⟩
  | badTag hfront htag => exact ⟨_, w', rfl, .badTag hfront htag, hlisted⟩
  | @refused e hrefusal =>
      cases e with
      | refused text => exact ⟨_, w', rfl, .refused text, hlisted⟩
      | _ => cases hrefusal
  | failed hrefusal =>
      refine ⟨_, w', rfl, .failed ?_, hlisted⟩
      rintro text rfl
      cases hrefusal

/-! ## All attempts -/

/-- Only an answer that fails for a passing reason makes planning fail for one, and then with it. -/
theorem Plan.OfAnswer.isPassing_eq {source : String} {access : Access} {repository : Reference}
    {answer : Except RegistryError (List String)} {result : Except SyncError Plan}
    (h : OfAnswer source access repository answer result) :
    Work.isPassing result = Work.isPassing answer := by
  cases h <;> rfl

namespace Services

variable (options : RunOptions) (w : World σ) (named : Reference)

/-- When attempt `i` to plan a repository begins, and what is asked for then. -/
def request (i : Nat) : Nat × Access × Reference :=
  (options.retry.start
      (fun i => (s.answer w.tree options.sourceAccess named w.services i).1.takes) w.now i,
    options.sourceAccess, named)

/-- The world `w'` is one in which attempt `i` begins, where the first began in `w`. -/
structure AtAttempt (i : Nat) (w' : World σ) : Prop where
  now : w'.now = (s.request options w named i).1
  tree : w'.tree = w.tree
  services : w'.services = s.stateBefore w.tree options.sourceAccess named w.services i
  requests : tagRequests w'.journal =
    tagRequests w.journal ++ (List.range i).map (s.request options w named)

/-- The world `w'` is one in which attempt `i` has ended. -/
structure BehindAttempt (i : Nat) (w' : World σ) : Prop where
  now : w'.now = options.retry.stop
    (fun i => (s.answer w.tree options.sourceAccess named w.services i).1.takes) w.now i
  tree : w'.tree = w.tree
  services : w'.services = (s.answer w.tree options.sourceAccess named w.services i).2
  requests : tagRequests w'.journal =
    tagRequests w.journal ++ (List.range (i + 1)).map (s.request options w named)

variable {s options w named source} {i : Nat} {w' : World σ}

theorem AtAttempt.zero : s.AtAttempt options w named 0 w :=
  ⟨rfl, rfl, rfl, (List.append_nil _).symm⟩

theorem BehindAttempt.next (h : s.BehindAttempt options w named i w') (what : String) (e : SyncError) :
    s.AtAttempt options w named (i + 1) (Work.afterWait options.retry what e i w') where
  now := congrArg (· + options.retry.wait i) h.now
  tree := h.tree
  services := h.services
  requests := by
    rw [Work.afterWait, tagRequests_append, tagRequests_log, List.append_nil]
    exact h.requests

variable (hparse : Reference.parse source = .ok named) (hrepository : named.isRepository = true)
include hparse hrepository

/-- Each attempt asks once, and the answer to it decides what comes of it. -/
theorem AtAttempt.run (h : s.AtAttempt options w named i w') :
    ∃ result w'',
      (Work.attempt (Plan.resolve s options.sourceAccess source .registry)).run none w' =
        (some (some result), w'') ∧
      Plan.OfAnswer source options.sourceAccess named
        (s.answer w.tree options.sourceAccess named w.services i).1.result result ∧
      s.BehindAttempt options w named i w'' := by
  obtain ⟨result, w'', hrun, hresult, hasks⟩ :=
    Plan.run_ofRegistry s options.sourceAccess source hparse hrepository w'
  rw [h.tree, h.services] at hresult hasks
  refine ⟨result, w'', Work.run_attempt_none hrun, hresult, ?_, hasks.tree.trans h.tree,
    hasks.services, ?_⟩
  · rw [hasks.now, h.now]
    rfl
  · rw [hasks.requests, h.requests, h.now, List.range_succ, List.map_append, List.append_assoc]
    rfl

/-- Planning stands before any attempt that only attempts failed for passing reasons precede, if those
behind them are counted. -/
theorem exists_atAttempt (n : Nat)
    (hbefore : ∀ i < n, Work.isPassing
      (s.answer w.tree options.sourceAccess named w.services i).1.result = true)
    (hcounted : ∀ i < n, options.retry.repetition? i = some (options.retry.repetition i)) :
    ∃ w', s.AtAttempt options w named n w' ∧ ∀ left,
      (Work.retryingFrom options.retry "Planning sync"
        (Plan.resolve s options.sourceAccess source .registry) (n + left) 0).run none w =
      (Work.retryingFrom options.retry "Planning sync"
        (Plan.resolve s options.sourceAccess source .registry) left n).run none w' := by
  induction n with
  | zero => exact ⟨w, .zero, fun left => by rw [Nat.zero_add]⟩
  | succ n ih =>
      obtain ⟨w', hat, hreach⟩ := ih (fun i hi => hbefore i (Nat.lt_succ_of_lt hi))
        fun i hi => hcounted i (Nat.lt_succ_of_lt hi)
      obtain ⟨result, w'', hattempt, hresult, hbehind⟩ := hat.run hparse hrepository
      have hpassing : Work.isPassing result = true :=
        hresult.isPassing_eq.trans (hbefore n (Nat.lt_succ_self n))
      obtain ⟨e, rfl, htransient⟩ := Work.eq_error_of_isPassing hpassing
      refine ⟨_, hbehind.next "Planning sync" e, fun left => ?_⟩
      rw [Nat.succ_add_eq_add_succ, hreach, Work.run_retryingFrom_next hattempt htransient
        (hcounted n (Nat.lt_succ_self n)) (by simp)]

variable (options w) in
/-- A repository is planned from what the requests for its tags come to. -/
theorem plan_repository :
    ∃ n ended result w', Work.Ends options.retry
        (fun i => (s.answer w.tree options.sourceAccess named w.services i).1.result) n ended ∧
      (s.plan source { options with sourceTransport := .registry }).run none w = (some result, w') ∧
      Plan.OfEnd source options.sourceAccess named ended result ∧
      s.BehindAttempt options w named n w' := by
  obtain ⟨n, ended, hn⟩ := Work.exists_ends options.retry
    fun i => (s.answer w.tree options.sourceAccess named w.services i).1.result
  obtain ⟨left, hleft⟩ := Nat.exists_eq_add_of_le hn.le
  obtain ⟨w', hat, hreach⟩ := exists_atAttempt hparse hrepository n hn.before hn.counted
  obtain ⟨planned, w'', hattempt, hanswer, hbehind⟩ := hat.run hparse hrepository
  cases hn with
  | last hn hcounted =>
      refine ⟨n, _, _, w'', .last hn hcounted, ?_, .answered hanswer, hbehind⟩
      rw [plan, Work.retrying, hleft, hreach]
      refine Work.run_retryingFrom_last hattempt ?_
      exact hn.last.imp (fun hn => by omega) fun hn => hanswer.isPassing_eq.trans hn
  | overflow hmax hpassing =>
      refine ⟨0, _, _, w'', .overflow hmax hpassing, ?_, .overflow, hbehind⟩
      obtain ⟨e, rfl, htransient⟩ :=
        Work.eq_error_of_isPassing (hanswer.isPassing_eq.trans hpassing)
      have hpos := RetryPolicy.retries_pos hmax
      obtain ⟨more, rfl⟩ : ∃ more, left = more + 1 := ⟨left - 1, by omega⟩
      rw [plan, Work.retrying, hleft, hreach]
      exact Work.run_retryingFrom_overflow hattempt htransient (RetryPolicy.repetition?_of_max hmax)

omit hparse hrepository in
/-- A first attempt that is not worth another one plans. -/
theorem run_plan_of_last {result : Except SyncError Plan}
    (hrun : (Plan.ofRegistry s options.sourceAccess source).run none w = (some result, w'))
    (hlast : Work.isPassing result = false) :
    (s.plan source { options with sourceTransport := .registry }).run none w =
      (some (result.mapError .failed), w') := by
  rw [plan, Work.retrying]
  exact Work.run_retryingFrom_last (Work.run_attempt_none hrun) (.inr hlast)

end Services

/-- How a source in a registry is planned, without a cut. A text that is no reference is refused and a
reference to an image is planned as it is, both without any request. For a repository each attempt is
one request for its tags. The attempts follow the outcomes of the requests, and the outcome of the last
one decides alone, unless the attempts end with an overflow. -/
theorem Services.plan_registry (s : Services σ) (source : String) (options : RunOptions)
    (w : World σ) :
    ∃ result w',
      (s.plan source { options with sourceTransport := .registry }).run none w = (some result, w') ∧
      ((∃ e, Reference.parse source = .error e ∧ result = .error (.failed (.reference e)) ∧
          w' = w) ∨
        (∃ named plan, Reference.parse source = .ok named ∧ named.isRepository = false ∧
          result = .ok plan ∧
          plan.batches = [{ images := [.inRegistry named], access := options.sourceAccess }] ∧
          w.Asks w' 0 w.services []) ∨
        ∃ named n ended, Reference.parse source = .ok named ∧ named.isRepository = true ∧
          Work.Ends options.retry
            (fun i => (s.answer w.tree options.sourceAccess named w.services i).1.result) n ended ∧
          Plan.OfEnd source options.sourceAccess named ended result ∧
          s.BehindAttempt options w named n w') := by
  cases hparse : Reference.parse source with
  | error e =>
      have hrun := Plan.run_ofRegistry_of_error s options.sourceAccess source hparse w
      exact ⟨_, w, run_plan_of_last hrun rfl, .inl ⟨e, rfl, rfl, rfl⟩⟩
  | ok named =>
      cases hrepository : named.isRepository with
      | false =>
          obtain ⟨plan, w', hrun, hbatches, hasks⟩ :=
            Plan.run_ofRegistry_of_image s options.sourceAccess source hparse hrepository w
          exact ⟨_, w', run_plan_of_last hrun rfl,
            .inr (.inl ⟨named, plan, rfl, hrepository, rfl, hbatches, hasks⟩)⟩
      | true =>
          obtain ⟨n, ended, result, w', hn, hrun, hresult, hbehind⟩ :=
            plan_repository options w hparse hrepository
          exact ⟨result, w', hrun,
            .inr (.inr ⟨named, n, ended, rfl, hrepository, hn, hresult, hbehind⟩)⟩

/-! ## A repository that is planned at the second attempt -/

namespace LateListing

/-- The tags of a repository cannot be listed at first. -/
def services : Services Nat where
  listTags := fun _ _ _ asked =>
    ({ result := if asked = 0 then .error (.timeout "no answer") else .ok ["v1"] }, asked + 1)
  copy := fun _ tree state => ({ result := .ok () }, tree, state)
  pattern := fun _ => .error "no pattern"

/-- Attempts that may be repeated a number of times. -/
def options (retries : UInt32) : RunOptions where
  sourceTransport := .registry
  destinationTransport := .registry
  retry := ⟨retries, some 250⟩

def world : World Nat := { now := 0, tree := .empty, journal := [], services := 0 }

/-- What planning comes to, and what it leaves behind. -/
def outcome (retries : UInt32) : Option (Except (Halt SyncError) Plan) × World Nat :=
  (services.plan "quay.io/app" (options retries)).run none world

/-- The number of images, if there is a plan. -/
def planned (retries : UInt32) : Option Nat :=
  match (outcome retries).1 with
  | some (.ok plan) => some plan.imageCount
  | _ => none

/-- Why there is none. -/
def halted (retries : UInt32) : Option (Halt SyncError) :=
  match (outcome retries).1 with
  | some (.error halt) => some halt
  | _ => none

end LateListing

/-- With the largest number of retries a repository whose tags can be listed at the second attempt is
not planned, and the tags are asked for once. With one retry fewer it is planned. -/
theorem Services.plan_registry_overflows :
    LateListing.planned 4294967294 = some 1 ∧ LateListing.halted 4294967295 = some .overflow ∧
      (tagRequests (LateListing.outcome 4294967295).2.journal).length = 1 := by
  decide +kernel

end ImageSync
