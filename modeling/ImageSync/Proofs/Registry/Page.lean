import ImageSync.Proofs.Registry.Record
import ImageSync.Registry.Listing

/-!
# What is sent for one page

A page is asked for once, or once more when no secure connection is made. A page that is refused is
asked for again with what the registry wants to see, and a token for that is asked for elsewhere.
Rules say what a record of this can be, one for each way that it can go.

## Main definitions

* `Token.Given`, `Lister.Asked`, `Lister.Met`, `Lister.Paged`: the rules for a token, for the
  question for a page, for the answer to a challenge and for a whole page.
* `Exchange.IsForPage`: whether an exchange is the question for a page.
* `Exchange.IsPassed access x`: whether a listing goes on behind an exchange that gave no page.

## Main statements

* `Lister.records_getPage`: one page goes by the rules.
* `Lister.Paged.of_ok`: the record of a page that was read.
* `Lister.Paged.host_eq`: all questions for a page go to its host.
-/

namespace ImageSync

open Http

variable {σ : Type}

/-! ## Tokens -/

namespace Token

section

variable (realm : String) (service scope : Option String) (repositoryPath : String)
  (credentials : Option Credentials)

/-- How a token can be asked for. -/
inductive Given : Except RegistryError String → List Exchange → Prop
  | unwritten {f : Unanswered}
      (h : request realm service scope repositoryPath credentials = .error f) :
      Given (.error f.registryError) []
  | unanswered {r : Request} {f : Unanswered} {record : List Exchange}
      (h : request realm service scope repositoryPath credentials = .ok r)
      (hsent : Sent r (.error f) record) : Given (.error f.registryError) record
  | answered {r : Request} {answer : Response} {record : List Exchange}
      (h : request realm service scope repositoryPath credentials = .ok r)
      (hsent : Sent r (.ok answer) record) : Given (ofResponse answer) record

theorem records_fetch (n : Network σ) :
    (fetch n realm service scope repositoryPath credentials).Records
      (fetch n.recording realm service scope repositoryPath credentials)
      (Given realm service scope repositoryPath credentials) := by
  unfold fetch
  refine Talk.records_note_bind ?_
  cases h : request realm service scope repositoryPath credentials with
  | error f => exact .throw (.unwritten h)
  | ok r =>
      refine Talk.records_ask_bind fun outcome record hsent => ?_
      cases outcome with
      | error f => exact .throw_behind (.unanswered h hsent)
      | ok answer => exact .lift_behind (.answered h hsent)

variable {realm service scope repositoryPath credentials}

theorem accept_of_request {r : Request}
    (h : request realm service scope repositoryPath credentials = .ok r) : r.accept = "*/*" := by
  unfold request at h
  split at h
  · cases h
  · dsimp only at h
    split at h <;> cases h
    rfl

/-- All that is sent for a token is one request. -/
theorem Given.accept_eq {result : Except RegistryError String} {record : List Exchange}
    (h : Given realm service scope repositoryPath credentials result record) :
    ∀ x ∈ record, x.request.accept = "*/*" := by
  intro x hx
  cases h with
  | unwritten => cases hx
  | unanswered h hsent => rw [hsent.eq_of_mem hx]; exact accept_of_request h
  | answered h hsent => rw [hsent.eq_of_mem hx]; exact accept_of_request h

end

end Token

/-! ## Pages -/

namespace Exchange

/-- Whether an exchange is the question for a page. -/
def IsForPage (x : Exchange) : Prop := x.request.accept = "application/json"

instance (x : Exchange) : Decidable x.IsForPage := inferInstanceAs (Decidable (_ = _))

/-- The page that an exchange gave. -/
def page? (x : Exchange) : Option Response :=
  if x.IsForPage then x.outcome.toOption.filter Response.isSuccess else none

/-- An exchange that gave no page and behind which a listing goes on: a secure connection was not
made and need not be, or a page was refused, or there was a token. -/
inductive IsPassed (access : Access) : Exchange → Prop
  | unconnected {r : Request} {f : Unanswered} (hpage : r.accept = "application/json")
      (hf : f.isNoConnection = true) (hscheme : r.uri.scheme = "https")
      (hskip : access.skipVerify = some true) : IsPassed access ⟨r, .error f⟩
  | challenge {r : Request} {answer : Response} (hpage : r.accept = "application/json")
      (h : answer.status = 401) : IsPassed access ⟨r, .ok answer⟩
  | token {r : Request} {answer : Response} {token : String} (hpage : r.accept = "*/*")
      (h : Token.ofResponse answer = .ok token) : IsPassed access ⟨r, .ok answer⟩

theorem IsPassed.page?_eq_none {access : Access} {x : Exchange} (h : x.IsPassed access) :
    x.page? = none := by
  cases h with
  | unconnected => simp [page?, Except.toOption]
  | challenge hpage h => simp [page?, Except.toOption, Response.isSuccess, h]
  | token haccept h => simp [page?, IsForPage, haccept]

end Exchange

namespace Lister

/-- The question for the page at an address. -/
def pageRequest (uri : Uri) (authorization : Option Authorization) : Request :=
  .get uri authorization "application/json"

@[simp] theorem pageRequest_host (uri : Uri) (authorization : Option Authorization) :
    (pageRequest uri authorization).uri.host = uri.host := rfl

variable (access : Access) (repository : Reference) (uri : Uri)
  (authorization : Option Authorization)

/-- How the question for a page can be answered. -/
inductive Asked : Except RegistryError (Response × Uri) → List Exchange → Prop
  | answered {answer : Response} {record : List Exchange}
      (h : Sent (pageRequest uri authorization) (.ok answer) record) :
      Asked (.ok (answer, uri)) record
  | unanswered {f : Unanswered} {record : List Exchange}
      (h : Sent (pageRequest uri authorization) (.error f) record)
      (hsecure : mayFallBack access uri f = false) : Asked (.error f.registryError) record
  | answeredPlain {f : Unanswered} {answer : Response} {record record' : List Exchange}
      (h : Sent (pageRequest uri authorization) (.error f) record)
      (hplain : mayFallBack access uri f = true)
      (h' : Sent (pageRequest (uri.withScheme "http") authorization) (.ok answer) record') :
      Asked (.ok (answer, uri.withScheme "http")) (record ++ record')
  | unansweredPlain {f f' : Unanswered} {record record' : List Exchange}
      (h : Sent (pageRequest uri authorization) (.error f) record)
      (hplain : mayFallBack access uri f = true)
      (h' : Sent (pageRequest (uri.withScheme "http") authorization) (.error f') record') :
      Asked (.error f'.registryError) (record ++ record')

theorem records_askPage (n : Network σ) :
    (askPage n access repository uri authorization).Records
      (askPage n.recording access repository uri authorization)
      (Asked access uri authorization) := by
  refine Talk.records_ask_bind (r := pageRequest uri authorization) fun outcome record h => ?_
  cases outcome with
  | ok answer => exact .pure_behind (.answered h)
  | error f =>
      dsimp only
      split
      · next hplain =>
        refine Talk.records_note_bind ?_
        refine Talk.records_ask_bind (r := pageRequest (uri.withScheme "http") authorization)
          fun outcome' record' h' => ?_
        cases outcome' with
        | ok answer => exact .pure_behind (.answeredPlain h hplain h')
        | error f' => exact .throw_behind (.unansweredPlain h hplain h')
      · next hsecure =>
        exact .throw_behind (.unanswered h (by simpa using hsecure))

/-- How what a registry asks for can be met. -/
inductive Met (answer : Response) : Except RegistryError Authorization → List Exchange → Prop
  | unsaid (h : answer.header? "www-authenticate" = none) :
      Met answer (.error (.refused (repository.name ++ " requires authentication"))) []
  | unknown {header : String} {e : RegistryError}
      (h : answer.header? "www-authenticate" = some header)
      (he : Challenge.parse header = .error e) : Met answer (.error e) []
  | bearer {header realm : String} {service scope : Option String}
      {result : Except RegistryError String} {record : List Exchange}
      (h : answer.header? "www-authenticate" = some header)
      (hc : Challenge.parse header = .ok (.bearer realm service scope))
      (ht : Token.Given realm service scope repository.path access.presented result record) :
      Met answer (result.map .bearer) record
  | basic {header : String} {c : Credentials}
      (h : answer.header? "www-authenticate" = some header)
      (hc : Challenge.parse header = .ok .basic) (hp : access.presented = some c) :
      Met answer (.ok (.basic c)) []
  | unpresented {header : String} (h : answer.header? "www-authenticate" = some header)
      (hc : Challenge.parse header = .ok .basic) (hp : access.presented = none) :
      Met answer (.error (.refused (repository.name ++ " requires credentials"))) []

theorem records_meet (n : Network σ) (answer : Response) :
    (meet n access repository answer).Records (meet n.recording access repository answer)
      (Met access repository answer) := by
  unfold meet
  cases h : answer.header? "www-authenticate" with
  | none => exact .throw (.unsaid h)
  | some header =>
      refine .lift_bind (fun e hc => .unknown h hc) fun c hc => ?_
      cases c with
      | bearer realm service scope =>
          refine .bind (Token.records_fetch realm service scope repository.path access.presented n)
            (fun e record ht => .bearer h hc ht) fun token record ht => ?_
          exact .pure_behind (.bearer h hc ht)
      | basic =>
          cases hp : access.presented with
          | none => exact .throw (.unpresented h hc hp)
          | some c => exact .pure (.basic h hc hp)

/-- How a page can be read. -/
inductive Paged : Except RegistryError TagPage → List Exchange → Prop
  | unasked {e : RegistryError} {record : List Exchange}
      (h : Asked access uri authorization (.error e) record) : Paged (.error e) record
  | shown {answer : Response} {uri' : Uri} {record : List Exchange}
      (h : Asked access uri authorization (.ok (answer, uri')) record)
      (hsuccess : answer.isSuccess = true) : Paged (.ok ⟨answer, uri', authorization⟩) record
  | denied {answer : Response} {uri' : Uri} {record : List Exchange}
      (h : Asked access uri authorization (.ok (answer, uri')) record)
      (hfailure : answer.isSuccess = false) (hstatus : answer.status ≠ 401) :
      Paged (.error (refusal repository answer)) record
  | unmet {answer : Response} {uri' : Uri} {e : RegistryError} {record record' : List Exchange}
      (h : Asked access uri authorization (.ok (answer, uri')) record)
      (hstatus : answer.status = 401) (hmet : Met access repository answer (.error e) record') :
      Paged (.error e) (record ++ record')
  | unaskedAgain {answer : Response} {uri' : Uri} {a : Authorization} {e : RegistryError}
      {record record' record'' : List Exchange}
      (h : Asked access uri authorization (.ok (answer, uri')) record)
      (hstatus : answer.status = 401) (hmet : Met access repository answer (.ok a) record')
      (h' : Asked access uri' (some a) (.error e) record'') :
      Paged (.error e) (record ++ (record' ++ record''))
  | admitted {answer answer' : Response} {uri' uri'' : Uri} {a : Authorization}
      {record record' record'' : List Exchange}
      (h : Asked access uri authorization (.ok (answer, uri')) record)
      (hstatus : answer.status = 401) (hmet : Met access repository answer (.ok a) record')
      (h' : Asked access uri' (some a) (.ok (answer', uri'')) record'')
      (hsuccess : answer'.isSuccess = true) :
      Paged (.ok ⟨answer', uri'', some a⟩) (record ++ (record' ++ record''))
  | deniedAgain {answer answer' : Response} {uri' uri'' : Uri} {a : Authorization}
      {record record' record'' : List Exchange}
      (h : Asked access uri authorization (.ok (answer, uri')) record)
      (hstatus : answer.status = 401) (hmet : Met access repository answer (.ok a) record')
      (h' : Asked access uri' (some a) (.ok (answer', uri'')) record'')
      (hfailure : answer'.isSuccess = false) :
      Paged (.error (refusal repository answer')) (record ++ (record' ++ record''))

theorem records_getPage (n : Network σ) :
    (getPage n access repository uri authorization).Records
      (getPage n.recording access repository uri authorization)
      (Paged access repository uri authorization) := by
  refine .bind (records_askPage access repository uri authorization n) (fun e record h => .unasked h)
    fun asked record h => ?_
  obtain ⟨answer, uri'⟩ := asked
  dsimp only
  by_cases hsuccess : answer.isSuccess = true
  · rw [if_pos hsuccess, if_pos hsuccess]
    exact .pure_behind (.shown h hsuccess)
  · rw [if_neg hsuccess, if_neg hsuccess]
    by_cases hstatus : answer.status = 401
    · rw [if_pos hstatus, if_pos hstatus]
      refine .bind (records_meet access repository n answer)
        (fun e record' hmet => .unmet h hstatus hmet) fun a record' hmet => ?_
      refine .bind (records_askPage access repository uri' (some a) n)
        (fun e record'' h' => .unaskedAgain h hstatus hmet h') fun asked' record'' h' => ?_
      obtain ⟨answer', uri''⟩ := asked'
      dsimp only
      by_cases hsuccess' : answer'.isSuccess = true
      · rw [if_pos hsuccess', if_pos hsuccess']
        exact .pure_behind (.admitted h hstatus hmet h' hsuccess')
      · rw [if_neg hsuccess', if_neg hsuccess']
        exact .throw_behind (.deniedAgain h hstatus hmet h' (by simpa using hsuccess'))
    · rw [if_neg hstatus, if_neg hstatus]
      exact .throw_behind (.denied h (by simpa using hsuccess) hstatus)

variable {access repository uri authorization}

/-! ## Pages that were read -/

theorem eq_of_mayFallBack {f : Unanswered} (h : mayFallBack access uri f = true) :
    f.isNoConnection = true ∧ uri.scheme = "https" ∧ access.skipVerify = some true := by
  simpa [mayFallBack, and_assoc] using h

/-- The last exchange of a question that was answered is the answer; there may be one before it, for
a secure connection that was not made. -/
theorem Asked.of_ok {answer : Response} {uri' : Uri} {record : List Exchange}
    (h : Asked access uri authorization (.ok (answer, uri')) record) :
    (uri' = uri ∨
      uri' = uri.withScheme "http" ∧ uri.scheme = "https" ∧ access.skipVerify = some true) ∧
    ∃ before, record = before ++ [⟨pageRequest uri' authorization, .ok answer⟩] ∧
      ∀ x ∈ before, x.IsPassed access := by
  cases h with
  | answered h => exact ⟨.inl rfl, [], h.eq_of_ok, by simp⟩
  | answeredPlain h hplain h' =>
      obtain ⟨hf, hscheme, hskip⟩ := eq_of_mayFallBack hplain
      refine ⟨.inr ⟨rfl, hscheme, hskip⟩, _, by rw [h'.eq_of_ok], fun x hx => ?_⟩
      rw [h.eq_of_mem hx]
      exact .unconnected rfl hf hscheme hskip

/-- What was sent to meet a registry is passed if it is met. -/
theorem Met.isPassed {answer : Response} {a : Authorization} {record : List Exchange}
    (h : Met access repository answer (.ok a) record) : ∀ x ∈ record, x.IsPassed access := by
  intro x hx
  generalize hresult : (Except.ok a : Except RegistryError Authorization) = result at h
  cases h with
  | unsaid => cases hx
  | unknown => cases hx
  | basic => cases hx
  | unpresented => cases hx
  | bearer h hc ht =>
      cases ht with
      | unwritten => cases hx
      | unanswered => cases hresult
      | @answered r answer record hr hsent =>
          rw [hsent.eq_of_mem hx]
          cases htoken : Token.ofResponse answer with
          | error e => rw [htoken] at hresult; cases hresult
          | ok token => exact .token (Token.accept_of_request hr) htoken

/-- A page that was read is the last exchange of its record, and the others are passed. It was found
where it was asked for, or there over a connection that is not secure. -/
theorem Paged.of_ok {page : TagPage} {record : List Exchange}
    (h : Paged access repository uri authorization (.ok page) record) :
    page.response.isSuccess = true ∧
    (page.uri = uri ∨
      page.uri = uri.withScheme "http" ∧ uri.scheme = "https" ∧ access.skipVerify = some true) ∧
    ∃ before, record = before ++ [⟨pageRequest page.uri page.authorization, .ok page.response⟩] ∧
      ∀ x ∈ before, x.IsPassed access := by
  cases h with
  | shown h hsuccess => exact ⟨hsuccess, h.of_ok⟩
  | @admitted answer answer' uri' uri'' a record record' record'' h hstatus hmet h' hsuccess =>
      obtain ⟨huri, before, hrecord, hbefore⟩ := h.of_ok
      obtain ⟨huri', before', hrecord', hbefore'⟩ := h'.of_ok
      refine ⟨hsuccess, ?_, record ++ record' ++ before', ?_, fun x hx => ?_⟩
      · rcases huri with rfl | ⟨rfl, hplain⟩
        · exact huri'
        · -- An address that has fallen back is not secure and does not fall back again.
          rcases huri' with rfl | ⟨-, hscheme, -⟩
          · exact .inr ⟨rfl, hplain⟩
          · rw [Uri.withScheme_scheme] at hscheme
            exact absurd hscheme (by decide)
      · simp only [hrecord', List.append_assoc]
      · rcases List.mem_append.1 hx with hx | hx
        · rcases List.mem_append.1 hx with hx | hx
          · rw [hrecord] at hx
            rcases List.mem_append.1 hx with hx | hx
            · exact hbefore x hx
            · rw [List.mem_singleton.1 hx]
              exact .challenge rfl hstatus
          · exact hmet.isPassed x hx
        · exact hbefore' x hx

/-- The record of a page that was read holds this page and no other. -/
theorem Paged.filterMap_page? {page : TagPage} {record : List Exchange}
    (h : Paged access repository uri authorization (.ok page) record) :
    record.filterMap Exchange.page? = [page.response] := by
  obtain ⟨hsuccess, -, before, rfl, hbefore⟩ := h.of_ok
  have hnone : before.filterMap Exchange.page? = [] :=
    List.filterMap_eq_nil_iff.2 fun x hx => (hbefore x hx).page?_eq_none
  have hlast : Exchange.page? ⟨pageRequest page.uri page.authorization, .ok page.response⟩ =
      some page.response := by
    simp [Exchange.page?, Exchange.IsForPage, pageRequest, Request.get, Except.toOption, hsuccess]
  simp [hnone, hlast]

/-! ## Hosts -/

theorem Asked.host_eq {result : Except RegistryError (Response × Uri)} {record : List Exchange}
    (h : Asked access uri authorization result record) :
    (∀ x ∈ record, x.request.uri.host = uri.host) ∧
      ∀ answer uri', result = .ok (answer, uri') → uri'.host = uri.host := by
  have hsent : ∀ {u : Uri} {outcome : Except Unanswered Response} {record : List Exchange},
      u.host = uri.host → Sent (pageRequest u authorization) outcome record →
        ∀ x ∈ record, x.request.uri.host = uri.host := by
    intro u outcome record hu hsent x hx
    rw [hsent.eq_of_mem hx, pageRequest_host, hu]
  cases h with
  | answered h =>
      refine ⟨hsent rfl h, fun answer uri' heq => ?_⟩
      cases heq
      rfl
  | unanswered h hsecure => exact ⟨hsent rfl h, fun _ _ heq => nomatch heq⟩
  | answeredPlain h hplain h' =>
      refine ⟨fun x hx => ?_, fun answer uri' heq => ?_⟩
      · exact (List.mem_append.1 hx).elim (hsent rfl h x) (hsent (uri.withScheme_host "http") h' x)
      · cases heq
        rfl
  | unansweredPlain h hplain h' =>
      refine ⟨fun x hx => ?_, fun _ _ heq => nomatch heq⟩
      exact (List.mem_append.1 hx).elim (hsent rfl h x) (hsent (uri.withScheme_host "http") h' x)

theorem Met.not_isForPage {answer : Response} {result : Except RegistryError Authorization}
    {record : List Exchange} (h : Met access repository answer result record) :
    ∀ x ∈ record, ¬x.IsForPage := by
  intro x hx hpage
  cases h with
  | unsaid => cases hx
  | unknown => cases hx
  | basic => cases hx
  | unpresented => cases hx
  | bearer h hc ht =>
      have haccept := ht.accept_eq x hx
      rw [Exchange.IsForPage, haccept] at hpage
      exact absurd hpage (by decide)

/-- All questions for a page go to the host of its address, and it is found there. -/
theorem Paged.host_eq {result : Except RegistryError TagPage} {record : List Exchange}
    (h : Paged access repository uri authorization result record) :
    (∀ x ∈ record, x.IsForPage → x.request.uri.host = uri.host) ∧
      ∀ page, result = .ok page → page.uri.host = uri.host := by
  -- Three parts of a record: the first question, what meets the registry, the second question.
  have hparts : ∀ {answer : Response} {uri' : Uri} {a : Authorization}
      {outcome : Except RegistryError (Response × Uri)} {record record' record'' : List Exchange},
      Asked access uri authorization (.ok (answer, uri')) record →
      Met access repository answer (.ok a) record' → Asked access uri' (some a) outcome record'' →
      ∀ x ∈ record ++ (record' ++ record''), x.IsForPage → x.request.uri.host = uri.host := by
    intro answer uri' a outcome record record' record'' h hmet h' x hx hpage
    rcases List.mem_append.1 hx with hx | hx
    · exact h.host_eq.1 x hx
    · rcases List.mem_append.1 hx with hx | hx
      · exact absurd hpage (hmet.not_isForPage x hx)
      · exact (h'.host_eq.1 x hx).trans (h.host_eq.2 _ _ rfl)
  cases h with
  | unasked h => exact ⟨fun x hx _ => h.host_eq.1 x hx, fun _ heq => nomatch heq⟩
  | shown h hsuccess =>
      refine ⟨fun x hx _ => h.host_eq.1 x hx, fun page heq => ?_⟩
      cases heq
      exact h.host_eq.2 _ _ rfl
  | denied h hfailure hstatus => exact ⟨fun x hx _ => h.host_eq.1 x hx, fun _ heq => nomatch heq⟩
  | unmet h hstatus hmet =>
      refine ⟨fun x hx hpage => ?_, fun _ heq => nomatch heq⟩
      rcases List.mem_append.1 hx with hx | hx
      · exact h.host_eq.1 x hx
      · exact absurd hpage (hmet.not_isForPage x hx)
  | unaskedAgain h hstatus hmet h' => exact ⟨hparts h hmet h', fun _ heq => nomatch heq⟩
  | admitted h hstatus hmet h' hsuccess =>
      refine ⟨hparts h hmet h', fun page heq => ?_⟩
      cases heq
      exact (h'.host_eq.2 _ _ rfl).trans (h.host_eq.2 _ _ rfl)
  | deniedAgain h hstatus hmet h' hfailure => exact ⟨hparts h hmet h', fun _ heq => nomatch heq⟩

end Lister

end ImageSync
