import ImageSync.Proofs.Registry.Reading

/-!
# How much is sent for a list

A question for a page is sent again for two reasons only: no secure connection was made, or the
registry wants to see something first. The first uses up the secure address and the second the one
answer to a challenge, so each comes up once for a page, whatever a server answers. The number of
pages is bounded as well, so a list always ends.

## Main definitions

* `Exchange.isUnconnected`, `Exchange.isChallenge`: the two ways in which a question for a page can
  make way for another one.
* `Lister.Sparing record`: what may be sent for one page.
* `Attempt`: a page that was asked for, read or not.

## Main statements

* `Lister.Paged.sparing`: little is sent for one page.
* `Lister.list_bounded`: a list ends behind a bounded number of pages, for each of which little is
  sent.
-/

namespace ImageSync

open Http

variable {σ : Type}

namespace Exchange

/-- Whether an exchange is a question for a page for which no secure connection was made. -/
def isUnconnected (x : Exchange) : Bool :=
  decide x.IsForPage && x.request.uri.scheme == "https" &&
    match x.outcome with
    | .error f => f.isNoConnection
    | .ok _ => false

/-- Whether an exchange is a question for a page to which the registry wants to see something. -/
def isChallenge (x : Exchange) : Bool :=
  decide x.IsForPage &&
    match x.outcome with
    | .error _ => false
    | .ok answer => answer.status == 401

theorem isChallenge_of_isUnconnected {x : Exchange} (h : x.isUnconnected = true) :
    x.isChallenge = false := by
  cases houtcome : x.outcome <;> simp_all [isUnconnected, isChallenge]

end Exchange

namespace Lister

variable {access : Access} {repository : Reference} {uri : Uri}
  {authorization : Option Authorization}

/-! ## One question -/

/-- How often it can come up that no secure connection is made: never if none is tried. -/
def secureTries (uri : Uri) : Nat := if uri.scheme = "https" then 1 else 0

theorem secureTries_le_one (uri : Uri) : secureTries uri ≤ 1 := by
  unfold secureTries
  split <;> omega

@[simp] theorem secureTries_withScheme_http (uri : Uri) :
    secureTries (uri.withScheme "http") = 0 := by
  simp [secureTries]

@[simp] theorem pageRequest_scheme (uri : Uri) (authorization : Option Authorization) :
    (pageRequest uri authorization).uri.scheme = uri.scheme := rfl

theorem isForPage_pageRequest (uri : Uri) (authorization : Option Authorization)
    (outcome : Except Unanswered Response) :
    Exchange.IsForPage ⟨pageRequest uri authorization, outcome⟩ := rfl

/-- A try behind which a connection that is not secure is used. -/
theorem unconnected_of_mayFallBack {f : Unanswered} {record : List Exchange}
    (h : Sent (pageRequest uri authorization) (.error f) record)
    (hplain : mayFallBack access uri f = true) :
    (∀ x ∈ record, x.isUnconnected = true) ∧ record.length ≤ secureTries uri := by
  obtain ⟨hf, hscheme, -⟩ := eq_of_mayFallBack hplain
  cases h with
  | unsent => simp
  | sent =>
      simp [Exchange.isUnconnected, isForPage_pageRequest, hf, hscheme, secureTries]

/-- One question for a page: secure tries that were given up, and at most one more exchange. -/
structure IsQuestion (uri : Uri) (record : List Exchange) : Prop where
  isForPage : ∀ x ∈ record, x.IsForPage
  split : ∃ passed last, record = passed ++ last ∧ last.length ≤ 1 ∧
    (∀ x ∈ passed, x.isUnconnected = true) ∧ passed.length ≤ secureTries uri

theorem IsQuestion.nil : IsQuestion uri [] := ⟨by simp, [], [], by simp⟩

theorem Asked.isQuestion {result : Except RegistryError (Response × Uri)} {record : List Exchange}
    (h : Asked access uri authorization result record) : IsQuestion uri record := by
  have hsent : ∀ {u : Uri} {outcome : Except Unanswered Response} {record : List Exchange},
      Sent (pageRequest u authorization) outcome record →
        (∀ x ∈ record, x.IsForPage) ∧ record.length ≤ 1 := by
    intro u outcome record hsent
    cases hsent <;> simp [isForPage_pageRequest]
  have hplain : ∀ {f : Unanswered} {outcome : Except Unanswered Response}
      {record record' : List Exchange}, Sent (pageRequest uri authorization) (.error f) record →
      mayFallBack access uri f = true →
      Sent (pageRequest (uri.withScheme "http") authorization) outcome record' →
      IsQuestion uri (record ++ record') := by
    intro f outcome record record' h hplain h'
    obtain ⟨hpassed, htries⟩ := unconnected_of_mayFallBack h hplain
    exact ⟨List.forall_mem_append.2 ⟨(hsent h).1, (hsent h').1⟩, record, record', rfl, (hsent h').2,
      hpassed, htries⟩
  cases h with
  | answered h => exact ⟨(hsent h).1, [], record, rfl, (hsent h).2, by simp, by simp⟩
  | unanswered h hsecure => exact ⟨(hsent h).1, [], record, rfl, (hsent h).2, by simp, by simp⟩
  | answeredPlain h hfalls h' => exact hplain h hfalls h'
  | unansweredPlain h hfalls h' => exact hplain h hfalls h'

/-- An answer comes behind the secure tries that were given up, and there are none left where it
came from. -/
theorem Asked.unconnected_of_ok {answer : Response} {uri' : Uri} {record : List Exchange}
    (h : Asked access uri authorization (.ok (answer, uri')) record) :
    ∃ passed x, record = passed ++ [x] ∧ x.IsForPage ∧ x.outcome = .ok answer ∧
      (∀ x ∈ passed, x.isUnconnected = true) ∧
      passed.length + secureTries uri' ≤ secureTries uri := by
  cases h with
  | answered h => exact ⟨[], _, h.eq_of_ok, isForPage_pageRequest .., rfl, by simp, by simp⟩
  | @answeredPlain f _ first _ h hplain h' =>
      obtain ⟨hpassed, hlength⟩ := unconnected_of_mayFallBack h hplain
      exact ⟨first, _, by rw [h'.eq_of_ok], isForPage_pageRequest .., rfl, hpassed,
        by simpa using hlength⟩

/-- At most one request is sent to meet a registry. -/
theorem Met.length_le {answer : Response} {result : Except RegistryError Authorization}
    {record : List Exchange} (h : Met access repository answer result record) :
    record.length ≤ 1 := by
  cases h with
  | unsaid => simp
  | unknown => simp
  | basic => simp
  | unpresented => simp
  | bearer h hc ht =>
      cases ht with
      | unwritten => simp
      | unanswered h hs => exact hs.length_le
      | answered h hs => exact hs.length_le

/-! ## Challenges -/

theorem countP_isChallenge_eq_zero {passed : List Exchange}
    (h : ∀ x ∈ passed, x.isUnconnected = true) : passed.countP Exchange.isChallenge = 0 :=
  List.countP_eq_zero.2 fun x hx => by simp [Exchange.isChallenge_of_isUnconnected (h x hx)]

/-- A question that was answered is a challenge if the answer says so. -/
theorem Asked.countP_isChallenge_of_ok {answer : Response} {uri' : Uri} {record : List Exchange}
    (h : Asked access uri authorization (.ok (answer, uri')) record) :
    record.countP Exchange.isChallenge = if answer.status = 401 then 1 else 0 := by
  obtain ⟨passed, x, rfl, hpage, houtcome, hpassed, -⟩ := h.unconnected_of_ok
  simp [countP_isChallenge_eq_zero hpassed, Exchange.isChallenge, hpage, houtcome,
    List.countP_singleton]

theorem Asked.countP_isChallenge_of_error {e : RegistryError} {record : List Exchange}
    (h : Asked access uri authorization (.error e) record) :
    record.countP Exchange.isChallenge = 0 := by
  have hsent : ∀ {r : Request} {f : Unanswered} {record : List Exchange},
      Sent r (.error f) record → record.countP Exchange.isChallenge = 0 := by
    intro r f record hsent
    cases hsent <;> simp [Exchange.isChallenge]
  cases h with
  | unanswered h hsecure => exact hsent h
  | unansweredPlain h hplain h' => rw [List.countP_append, hsent h, hsent h']

theorem Met.countP_isChallenge {answer : Response} {result : Except RegistryError Authorization}
    {record : List Exchange} (h : Met access repository answer result record) :
    record.countP Exchange.isChallenge = 0 :=
  List.countP_eq_zero.2 fun x hx => by simp [Exchange.isChallenge, h.not_isForPage x hx]

/-- The error for a page that is refused although the registry was shown something. -/
def denial (repository : Reference) : RegistryError :=
  .refused ("access to " ++ repository.name ++ " denied (HTTP 401)")

theorem refusal_eq_denial {answer : Response} (h : answer.status = 401) :
    refusal repository answer = denial repository := by
  have htext : " denied (HTTP " ++ (toString 401 ++ ")") = " denied (HTTP 401)" := by decide
  rw [refusal, if_pos (.inl h), h, denial, String.append_assoc, String.append_assoc, htext]

/-- A page with a second challenge is refused. -/
theorem Paged.eq_denial {result : Except RegistryError TagPage} {record : List Exchange}
    (h : Paged access repository uri authorization result record)
    (htwo : 2 ≤ record.countP Exchange.isChallenge) : result = .error (denial repository) := by
  cases h with
  | unasked h => simp [h.countP_isChallenge_of_error] at htwo
  | shown h hsuccess => grind [h.countP_isChallenge_of_ok]
  | denied h hfailure hstatus => simp [h.countP_isChallenge_of_ok, hstatus] at htwo
  | unmet h hstatus hmet =>
      simp [h.countP_isChallenge_of_ok, hmet.countP_isChallenge, hstatus] at htwo
  | unaskedAgain h hstatus hmet h' =>
      simp [h.countP_isChallenge_of_ok, hmet.countP_isChallenge, h'.countP_isChallenge_of_error,
        hstatus] at htwo
  | @admitted _ answer' _ _ _ _ _ _ h hstatus hmet h' hsuccess =>
      have hstatus' : answer'.status ≠ 401 := by
        rintro hstatus'
        simp [Response.isSuccess, hstatus'] at hsuccess
      simp [h.countP_isChallenge_of_ok, hmet.countP_isChallenge, h'.countP_isChallenge_of_ok,
        hstatus, hstatus'] at htwo
  | @deniedAgain _ answer' _ _ _ _ _ _ h hstatus hmet h' hfailure =>
      by_cases hstatus' : answer'.status = 401
      · rw [refusal_eq_denial hstatus']
      · simp [h.countP_isChallenge_of_ok, hmet.countP_isChallenge, h'.countP_isChallenge_of_ok,
          hstatus, hstatus'] at htwo

/-! ## One page -/

/-- What may be sent for one page. All questions for it but the last make way for the next one: at
most one of them because no secure connection was made, and at most one because the registry wanted
to see something. Besides there may be one request for a token. -/
structure Sparing (record : List Exchange) : Prop where
  questions : ∃ passed last, record.filter (fun x => x.IsForPage) = passed ++ last ∧
    last.length ≤ 1 ∧ (∀ x ∈ passed, x.isUnconnected = true ∨ x.isChallenge = true) ∧
    passed.countP Exchange.isUnconnected ≤ 1 ∧ passed.countP Exchange.isChallenge ≤ 1
  tokens : record.countP (fun x => ¬x.IsForPage) ≤ 1

/-- There are three questions at most. -/
theorem Sparing.countP_le {record : List Exchange} (h : Sparing record) :
    record.countP (fun x => x.IsForPage) ≤ 3 := by
  obtain ⟨passed, last, hquestions, hlast, hpassed, hunconnected, hchallenges⟩ := h.questions
  have hchallenge :
      passed.countP (fun x => ¬x.isUnconnected) ≤ passed.countP Exchange.isChallenge :=
    List.countP_mono_left fun x hx h => (hpassed x hx).resolve_left (by simpa using h)
  have hlength : passed.length = _ := List.length_eq_countP_add_countP Exchange.isUnconnected
  rw [List.countP_eq_length_filter, hquestions, List.length_append]
  omega

/-- Questions are all that is left of a record with at most one other request. -/
theorem filter_isForPage {first met second : List Exchange} (hfirst : ∀ x ∈ first, x.IsForPage)
    (hmet : ∀ x ∈ met, ¬x.IsForPage) (hsecond : ∀ x ∈ second, x.IsForPage) :
    (first ++ (met ++ second)).filter (fun x => x.IsForPage) = first ++ second := by
  rw [List.filter_append, List.filter_append,
    List.filter_eq_self.2 fun x hx => by simpa using hfirst x hx,
    List.filter_eq_nil_iff.2 fun x hx => by simpa using hmet x hx,
    List.filter_eq_self.2 fun x hx => by simpa using hsecond x hx, List.nil_append]

/-- One question, which no other one follows. -/
theorem IsQuestion.sparing {record : List Exchange} (h : IsQuestion uri record) :
    Sparing record where
  questions := by
    obtain ⟨passed, last, hrecord, hlast, hpassed, htries⟩ := h.split
    have hone := secureTries_le_one uri
    refine ⟨passed, last, ?_, hlast, fun x hx => .inl (hpassed x hx),
      passed.countP_le_length.trans (htries.trans hone), ?_⟩
    · rw [← hrecord]
      exact List.filter_eq_self.2 fun x hx => by simpa using h.isForPage x hx
    · rw [countP_isChallenge_eq_zero hpassed]
      exact Nat.zero_le 1
  tokens := by
    rw [List.countP_eq_zero.2 fun x hx => by simpa using h.isForPage x hx]
    exact Nat.zero_le 1

/-- A question behind which the registry is met, and then the question that follows it. -/
theorem Asked.sparing_of_met {answer : Response} {uri' : Uri}
    {result : Except RegistryError Authorization} {first met second : List Exchange}
    (h : Asked access uri authorization (.ok (answer, uri')) first) (hstatus : answer.status = 401)
    (hmet : Met access repository answer result met) (h' : IsQuestion uri' second) :
    Sparing (first ++ (met ++ second)) where
  questions := by
    obtain ⟨passed, x, hfirst, hpage, houtcome, hpassed, htries⟩ := h.unconnected_of_ok
    obtain ⟨passed', last, hsecond, hlast, hpassed', htries'⟩ := h'.split
    have hx : x.isChallenge = true := by simp [Exchange.isChallenge, hpage, houtcome, hstatus]
    have hx' : x.isUnconnected = false := by simp [Exchange.isUnconnected, houtcome]
    have hone := secureTries_le_one uri
    refine ⟨passed ++ [x] ++ passed', last, ?_, hlast, fun y hy => ?_, ?_, ?_⟩
    · rw [filter_isForPage h.isQuestion.isForPage hmet.not_isForPage h'.isForPage, hfirst, hsecond]
      simp only [List.append_assoc]
    · rcases List.mem_append.1 hy with hy | hy
      · rcases List.mem_append.1 hy with hy | hy
        · exact .inl (hpassed y hy)
        · rw [List.mem_singleton.1 hy]
          exact .inr hx
      · exact .inl (hpassed' y hy)
    · -- The secure try is used up by the first question or by the second one, not by both.
      have hle := passed.countP_le_length (p := Exchange.isUnconnected)
      have hle' := passed'.countP_le_length (p := Exchange.isUnconnected)
      simp only [List.countP_append, List.countP_singleton, hx', Bool.false_eq_true, if_false]
      omega
    · simp only [List.countP_append, List.countP_singleton, countP_isChallenge_eq_zero hpassed,
        countP_isChallenge_eq_zero hpassed', hx, if_true]
      omega
  tokens := by
    have hpages : ∀ l : List Exchange, (∀ x ∈ l, x.IsForPage) →
        l.countP (fun x => ¬x.IsForPage) = 0 := fun l hl =>
      List.countP_eq_zero.2 fun x hx => by simpa using hl x hx
    have hle := met.countP_le_length (p := fun x => ¬x.IsForPage)
    have hlength := hmet.length_le
    rw [List.countP_append, List.countP_append, hpages _ h.isQuestion.isForPage,
      hpages _ h'.isForPage]
    omega

/-- Little is sent for one page, whatever is answered. -/
theorem Paged.sparing {result : Except RegistryError TagPage} {record : List Exchange}
    (h : Paged access repository uri authorization result record) : Sparing record := by
  cases h with
  | unasked h => exact h.isQuestion.sparing
  | shown h hsuccess => exact h.isQuestion.sparing
  | denied h hfailure hstatus => exact h.isQuestion.sparing
  | unmet h hstatus hmet => simpa using h.sparing_of_met hstatus hmet .nil
  | unaskedAgain h hstatus hmet h' => exact h.sparing_of_met hstatus hmet h'.isQuestion
  | admitted h hstatus hmet h' hsuccess => exact h.sparing_of_met hstatus hmet h'.isQuestion
  | deniedAgain h hstatus hmet h' hfailure => exact h.sparing_of_met hstatus hmet h'.isQuestion

end Lister

/-! ## A list -/

/-- A page that was asked for, read or not. -/
structure Attempt where
  asked : Uri
  /-- Who asked first. -/
  shown : Option Authorization
  outcome : Except RegistryError TagPage
  /-- What was sent for the page. -/
  record : List Exchange

namespace Attempt

/-- Whether the next link of one page is what another one asks for, with what was shown last. -/
def LeadsTo (a a' : Attempt) : Prop :=
  ∃ page, a.outcome = .ok page ∧ page.next? = some a'.asked ∧ a'.shown = page.authorization

/-- Whether an attempt is one at the page at an address, by the rules. -/
def IsAt (access : Access) (repository : Reference) (a : Attempt) : Prop :=
  Lister.Paged access repository a.asked a.shown a.outcome a.record

end Attempt

/-- The pages that are asked for from an address on. There are at most as many as may be read, and
one that cannot be read ends the list with its error. -/
theorem Reading.attempts {access : Access} {repository : Reference} {left : Nat}
    {visited : List Uri} {uri : Uri} {shown : Option Authorization}
    {result : Except RegistryError (List String)} {visits : List Visit} {rest : List Exchange}
    (h : Reading access repository left visited uri shown result visits rest) :
    ∃ attempts : List Attempt,
      visits.flatMap Visit.record ++ rest = attempts.flatMap Attempt.record ∧
      attempts.length ≤ left ∧ (∀ a ∈ attempts.head?, a.asked = uri ∧ a.shown = shown) ∧
      attempts.IsChain Attempt.LeadsTo ∧ (∀ a ∈ attempts, a.IsAt access repository) ∧
      ∀ a ∈ attempts, ∀ e, a.outcome = .error e → result = .error e := by
  induction h with
  | again => exact ⟨[], by simp⟩
  | tooLong => exact ⟨[], by simp⟩
  | @unread left visited uri shown e record h hpage =>
      exact ⟨[⟨uri, shown, .error e, record⟩], by simpa [Attempt.IsAt] using hpage⟩
  | @illegible left visited uri shown page e record h hpage htags =>
      exact ⟨[⟨uri, shown, .ok page, record⟩], by simpa [Attempt.IsAt] using hpage⟩
  | @last left visited v h hv hnext =>
      exact ⟨[⟨v.asked, v.shown, .ok v.page, v.record⟩], by simpa [Attempt.IsAt] using hv.paged⟩
  | @onward left visited v next result visits rest h hv hnext more ih =>
      obtain ⟨attempts, hrecord, hlength, hhead, hchain, hat, herror⟩ := ih
      refine ⟨⟨v.asked, v.shown, .ok v.page, v.record⟩ :: attempts, ?_, ?_, by simp,
        List.isChain_cons.2 ⟨fun a ha => ?_, hchain⟩, List.forall_mem_cons.2 ⟨hv.paged, hat⟩,
        List.forall_mem_cons.2 ⟨nofun, fun a ha e he => ?_⟩⟩
      · rw [List.flatMap_cons, List.append_assoc, hrecord]
        rfl
      · simpa using hlength
      · obtain ⟨hasked, hshown⟩ := hhead a ha
        exact ⟨v.page, rfl, by rw [hnext, hasked], hshown⟩
      · rw [herror a ha e he]
        rfl

/-- A list ends, whatever is answered. There is a bounded number of pages that are asked for, the
first page and then what the next link of each page names. For each of them there are at most three
questions and one request for a token, and a page that is challenged twice is refused. -/
theorem Lister.list_bounded (l : Lister) (n : Network σ) (tree : FileTree) (access : Access)
    (repository : Reference) (s : σ) :
    ∃ (result : Except RegistryError (List String)) (s' : σ) (attempts : List Attempt),
      (l.list n tree access repository).run s = (result, s') ∧
      (l.list n.recording tree access repository).run (s, []) =
        (result, s', attempts.flatMap Attempt.record) ∧
      attempts.length ≤ maxPages ∧
      (∀ a ∈ attempts.head?, l.firstPage repository = .ok a.asked) ∧
      attempts.IsChain Attempt.LeadsTo ∧
      ∀ a ∈ attempts, a.IsAt access repository ∧
        a.record.countP (fun x => x.IsForPage) ≤ 3 ∧
        a.record.countP (fun x => ¬x.IsForPage) ≤ 1 ∧ Sparing a.record ∧
        (2 ≤ a.record.countP Exchange.isChallenge → result = .error (denial repository)) := by
  obtain ⟨result, s', record, hrun, hrecord, visits, hlisted⟩ :=
    records_list access repository l n tree s []
  rw [List.nil_append] at hrecord
  cases hlisted with
  | unstarted => exact ⟨_, s', [], hrun, hrecord, by simp⟩
  | @started first _ _ rest hfirst hreading =>
      obtain ⟨attempts, hattempts, hlength, hhead, hchain, hat, herror⟩ := hreading.attempts
      refine ⟨result, s', attempts, hrun, hattempts ▸ hrecord, hlength, fun a ha => ?_, hchain,
        fun a ha => ?_⟩
      · rw [(hhead a ha).1, hfirst]
      · have hsparing := (hat a ha).sparing
        exact ⟨hat a ha, hsparing.countP_le, hsparing.tokens, hsparing,
          fun htwo => herror a ha _ ((hat a ha).eq_denial htwo)⟩

end ImageSync
