import ImageSync.Copy.Tool
import ImageSync.Proofs.Registry.Host

/-!
# Where credentials are shown

Credentials are shown when they are asked for: to the realm of a challenge that wants a token, and
with questions for pages behind a challenge that wants them. For each request of a list there is
something in what was sent and answered before that accounts for it. Settings that present no
credentials are as good as settings that have none, for lists and for copies.

## Main definitions

* `Lister.Named`, `Lister.Showable`: the addresses that can be asked for, and what can be shown.
* `Lister.Founded`: the requests for which something before accounts.
* `Lister.Justified earlier record`: whether each request of a record is founded.
* `Access.ActsLike`: settings with which the same is sent and called.

## Main statements

* `Reading.justified`: all requests for a list are founded.
* `Lister.list_congr`, `CopyJob.call_congr`: lists and copies depend on the credentials that are
  presented only.
* `Lister.list_shows_credentials`: where credentials are shown, and that they are not if none are
  presented.
-/

namespace ImageSync

open Http

variable {σ : Type}

/-! ## What accounts for a request -/

/-- Whether the registry answered a question for a page with a challenge. -/
structure Exchange.Challenges (x : Exchange) (c : Challenge) : Prop where
  isForPage : x.IsForPage
  exists_answer : ∃ answer header, x.outcome = .ok answer ∧ answer.status = 401 ∧
    answer.header? "www-authenticate" = some header ∧ Challenge.parse header = .ok c

namespace Lister

section

variable (l : Lister) (access : Access) (repository : Reference) (earlier : List Exchange)

/-- The addresses that can be asked for: the first page, the next link of a page that was given, and
a connection that is not secure in place of a secure one. -/
inductive Named : Uri → Prop
  | first {uri : Uri} (h : l.firstPage repository = .ok uri) : Named uri
  | link {page : TagPage} {uri : Uri} (h : Named page.uri)
      (hpage : ⟨pageRequest page.uri page.authorization, .ok page.response⟩ ∈ earlier)
      (hnext : page.next? = some uri) : Named uri
  | plain {uri : Uri} (h : Named uri) : Named (uri.withScheme "http")

/-- What can be shown with the question for a page: nothing, the token of the settings, a token that
was given, and credentials if the registry challenged to show them. -/
inductive Showable : Option Authorization → Prop
  | nothing : Showable none
  | token {t : String} (h : access.token = some t) : Showable (some (.bearer t))
  | given {realm : String} {service scope : Option String} {r : Request} {answer : Response}
      {t : String}
      (h : Token.request realm service scope repository.path access.presented = .ok r)
      (hanswer : ⟨r, .ok answer⟩ ∈ earlier) (ht : Token.ofResponse answer = .ok t) :
      Showable (some (.bearer t))
  | basic {x : Exchange} {c : Credentials} (hx : x ∈ earlier) (hchallenge : x.Challenges .basic)
      (hc : access.presented = some c) : Showable (some (.basic c))

/-- The requests for which something before accounts: questions for pages, and requests for a token
if the registry named the realm in a challenge. A user that stands in an address is shown there, too,
but comes from whoever named the address. -/
inductive Founded : Request → Prop
  | page {uri : Uri} {a : Option Authorization} (huri : l.Named repository earlier uri)
      (ha : Showable access repository earlier a) : Founded (pageRequest uri a)
  | token {x : Exchange} {realm : String} {service scope : Option String} {r : Request}
      (hx : x ∈ earlier) (hchallenge : x.Challenges (.bearer realm service scope))
      (h : Token.request realm service scope repository.path access.presented = .ok r) : Founded r

end

/-- Whether each request of a record is founded on what comes before it. -/
inductive Justified (l : Lister) (access : Access) (repository : Reference) :
    List Exchange → List Exchange → Prop
  | nil {earlier : List Exchange} : Justified l access repository earlier []
  | cons {earlier record : List Exchange} {x : Exchange}
      (hx : l.Founded access repository earlier x.request)
      (h : Justified l access repository (earlier ++ [x]) record) :
      Justified l access repository earlier (x :: record)

variable {l : Lister} {access : Access} {repository : Reference} {earlier earlier' : List Exchange}

theorem Named.mono {uri : Uri} (h : l.Named repository earlier uri) (hsub : earlier ⊆ earlier') :
    l.Named repository earlier' uri := by
  induction h with
  | first h => exact .first h
  | link h hpage hnext ih => exact .link ih (hsub hpage) hnext
  | plain h ih => exact .plain ih

theorem Showable.mono {a : Option Authorization} (h : Showable access repository earlier a)
    (hsub : earlier ⊆ earlier') : Showable access repository earlier' a := by
  cases h with
  | nothing => exact .nothing
  | token h => exact .token h
  | given h hanswer ht => exact .given h (hsub hanswer) ht
  | basic hx hchallenge hc => exact .basic (hsub hx) hchallenge hc

namespace Justified

theorem append {record record' : List Exchange} (h : Justified l access repository earlier record)
    (h' : Justified l access repository (earlier ++ record) record') :
    Justified l access repository earlier (record ++ record') := by
  induction h with
  | nil => simpa using h'
  | cons hx h ih => exact .cons hx (ih (by simpa using h'))

/-- What comes before a request in the record accounts for it. -/
theorem founded {record before after : List Exchange} {x : Exchange}
    (h : Justified l access repository earlier record) (hrecord : record = before ++ x :: after) :
    l.Founded access repository (earlier ++ before) x.request := by
  induction h generalizing before with
  | nil => simp at hrecord
  | cons hy h ih =>
      cases before with
      | nil =>
          cases hrecord
          simpa using hy
      | cons y before =>
          cases hrecord
          simpa using ih rfl

end Justified

/-! ## Requests for a page -/

theorem justified_of_sent {r : Request} {outcome : Except Unanswered Response}
    {record : List Exchange} (h : Sent r outcome record)
    (hr : l.Founded access repository earlier r) :
    Justified l access repository earlier record := by
  cases h with
  | unsent => exact .nil
  | sent => exact .cons hr .nil

variable {uri : Uri} {authorization : Option Authorization} {record : List Exchange}

theorem Asked.justified {result : Except RegistryError (Response × Uri)}
    (h : Asked access uri authorization result record) (huri : l.Named repository earlier uri)
    (ha : Showable access repository earlier authorization) :
    Justified l access repository earlier record ∧
      ∀ answer uri', result = .ok (answer, uri') → l.Named repository earlier uri' := by
  have hplain : ∀ {before : List Exchange},
      l.Founded access repository (earlier ++ before)
        (pageRequest (uri.withScheme "http") authorization) := fun {before} =>
    .page (huri.plain.mono (List.subset_append_left earlier before))
      (ha.mono (List.subset_append_left earlier before))
  cases h with
  | answered h =>
      refine ⟨justified_of_sent h (.page huri ha), fun answer uri' heq => ?_⟩
      cases heq
      exact huri
  | unanswered h => exact ⟨justified_of_sent h (.page huri ha), fun _ _ heq => nomatch heq⟩
  | answeredPlain h _ h' =>
      refine ⟨(justified_of_sent h (.page huri ha)).append (justified_of_sent h' hplain),
        fun answer uri' heq => ?_⟩
      cases heq
      exact huri.plain
  | unansweredPlain h _ h' =>
      exact ⟨(justified_of_sent h (.page huri ha)).append (justified_of_sent h' hplain),
        fun _ _ heq => nomatch heq⟩

/-- What is sent to meet a challenge is founded on it, and what comes of it can be shown. -/
theorem Met.justified {answer : Response} {result : Except RegistryError Authorization}
    (h : Met access repository answer result record) {x : Exchange} (hx : x ∈ earlier)
    (hpage : x.IsForPage) (hanswer : x.outcome = .ok answer) (hstatus : answer.status = 401) :
    Justified l access repository earlier record ∧
      ∀ a, result = .ok a → Showable access repository (earlier ++ record) (some a) := by
  have hchallenges : ∀ {header : String} {c : Challenge},
      answer.header? "www-authenticate" = some header → Challenge.parse header = .ok c →
        x.Challenges c := fun hheader hc =>
    ⟨hpage, answer, _, hanswer, hstatus, hheader, hc⟩
  cases h with
  | unsaid => exact ⟨.nil, fun _ heq => nomatch heq⟩
  | unknown => exact ⟨.nil, fun _ heq => nomatch heq⟩
  | unpresented => exact ⟨.nil, fun _ heq => nomatch heq⟩
  | basic hheader hc hp =>
      refine ⟨.nil, fun a heq => ?_⟩
      cases heq
      exact .basic (List.mem_append_left _ hx) (hchallenges hheader hc) hp
  | bearer hheader hc ht =>
      have hfounded : ∀ {r : Request}, Token.request _ _ _ repository.path access.presented = .ok r →
          l.Founded access repository earlier r := fun hr =>
        .token hx (hchallenges hheader hc) hr
      cases ht with
      | unwritten => exact ⟨.nil, fun _ heq => nomatch heq⟩
      | unanswered hr hsent =>
          exact ⟨justified_of_sent hsent (hfounded hr), fun _ heq => nomatch heq⟩
      | @answered r answer record hr hsent =>
          refine ⟨justified_of_sent hsent (hfounded hr), fun a heq => ?_⟩
          cases htoken : Token.ofResponse answer with
          | error e =>
              rw [htoken] at heq
              cases heq
          | ok t =>
              rw [htoken] at heq
              cases heq
              exact .given hr (by simp [hsent.eq_of_ok]) htoken

/-- All requests for a page are founded, and so is what is asked for and shown behind it. -/
theorem Paged.justified {result : Except RegistryError TagPage}
    (h : Paged access repository uri authorization result record)
    (huri : l.Named repository earlier uri)
    (ha : Showable access repository earlier authorization) :
    Justified l access repository earlier record ∧ ∀ page, result = .ok page →
      l.Named repository (earlier ++ record) page.uri ∧
        Showable access repository (earlier ++ record) page.authorization := by
  -- A question that is answered with a challenge, and what is sent to meet it.
  have hmeet : ∀ {answer : Response} {uri' : Uri} {result : Except RegistryError Authorization}
      {first met : List Exchange}, Asked access uri authorization (.ok (answer, uri')) first →
      answer.status = 401 → Met access repository answer result met →
      Justified l access repository (earlier ++ first) met ∧
        ∀ a, result = .ok a → Showable access repository (earlier ++ first ++ met) (some a) := by
    intro answer uri' result first met h hstatus hmet
    obtain ⟨-, before, rfl, -⟩ := h.of_ok
    exact hmet.justified (x := ⟨pageRequest uri' authorization, .ok answer⟩) (by simp) rfl rfl hstatus
  -- The same with a second question behind it.
  have hagain : ∀ {answer : Response} {uri' : Uri} {a : Authorization}
      {result : Except RegistryError (Response × Uri)} {first met second : List Exchange},
      Asked access uri authorization (.ok (answer, uri')) first → answer.status = 401 →
      Met access repository answer (.ok a) met → Asked access uri' (some a) result second →
      Justified l access repository earlier (first ++ (met ++ second)) ∧
        ∀ answer' uri'', result = .ok (answer', uri'') →
          l.Named repository (earlier ++ (first ++ (met ++ second))) uri'' ∧
            Showable access repository (earlier ++ (first ++ (met ++ second))) (some a) := by
    intro answer uri' a result first met second h hstatus hmet h'
    obtain ⟨hfirst, huri'⟩ := h.justified huri ha
    obtain ⟨hmet, ha'⟩ := hmeet h hstatus hmet
    have ha' := ha' a rfl
    rw [List.append_assoc] at ha'
    have huri' := (huri' answer uri' rfl).mono (List.subset_append_left earlier (first ++ met))
    obtain ⟨hsecond, huri''⟩ := h'.justified huri' ha'
    have hsub : earlier ++ (first ++ met) ⊆ earlier ++ (first ++ (met ++ second)) := by
      rw [← List.append_assoc first, ← List.append_assoc earlier (first ++ met)]
      exact List.subset_append_left _ second
    refine ⟨hfirst.append (hmet.append (by rwa [List.append_assoc])), fun answer' uri'' heq => ?_⟩
    exact ⟨(huri'' answer' uri'' heq).mono hsub, ha'.mono hsub⟩
  cases h with
  | unasked h => exact ⟨(h.justified huri ha).1, fun _ heq => nomatch heq⟩
  | shown h hsuccess =>
      obtain ⟨hrecord, huri'⟩ := h.justified huri ha
      refine ⟨hrecord, fun page heq => ?_⟩
      cases heq
      exact ⟨(huri' _ _ rfl).mono (List.subset_append_left _ _),
        ha.mono (List.subset_append_left _ _)⟩
  | denied h hfailure hstatus => exact ⟨(h.justified huri ha).1, fun _ heq => nomatch heq⟩
  | unmet h hstatus hmet =>
      exact ⟨(h.justified huri ha).1.append (hmeet h hstatus hmet).1, fun _ heq => nomatch heq⟩
  | unaskedAgain h hstatus hmet h' =>
      exact ⟨(hagain h hstatus hmet h').1, fun _ heq => nomatch heq⟩
  | admitted h hstatus hmet h' hsuccess =>
      obtain ⟨hrecord, hpage⟩ := hagain h hstatus hmet h'
      refine ⟨hrecord, fun page heq => ?_⟩
      cases heq
      exact hpage _ _ rfl
  | deniedAgain h hstatus hmet h' hfailure =>
      exact ⟨(hagain h hstatus hmet h').1, fun _ heq => nomatch heq⟩

end Lister

/-! ## Requests for a list -/

/-- All requests for a list are founded: what is shown behind a page was shown for it or given
there, and the next page is the one that its link names. -/
theorem Reading.justified {l : Lister} {access : Access} {repository : Reference} {left : Nat}
    {visited : List Uri} {uri : Uri} {shown : Option Authorization}
    {result : Except RegistryError (List String)} {visits : List Visit} {rest : List Exchange}
    (h : Reading access repository left visited uri shown result visits rest)
    {earlier : List Exchange} (huri : l.Named repository earlier uri)
    (hshown : Lister.Showable access repository earlier shown) :
    l.Justified access repository earlier (visits.flatMap Visit.record ++ rest) := by
  induction h generalizing earlier with
  | again => exact .nil
  | tooLong => exact .nil
  | unread h hpage => exact (hpage.justified huri hshown).1
  | illegible h hpage htags => exact (hpage.justified huri hshown).1
  | last h hv hnext => simpa using (hv.paged.justified huri hshown).1
  | onward h hv hnext more ih =>
      obtain ⟨hrecord, hpage⟩ := hv.paged.justified huri hshown
      obtain ⟨hfound, hshown'⟩ := hpage _ rfl
      obtain ⟨-, -, before, hlast, -⟩ := hv.paged.of_ok
      rw [List.flatMap_cons, List.append_assoc]
      exact hrecord.append (ih (.link hfound (by simp [hlast]) hnext) hshown')

/-! ## Settings that act alike -/

/-- Whether settings differ at most in credentials that are not presented. -/
structure Access.ActsLike (a b : Access) : Prop where
  certDir_eq : a.certDir = b.certDir
  skipVerify_eq : a.skipVerify = b.skipVerify
  token_eq : a.token = b.token
  anonymous_eq : a.anonymous = b.anonymous
  presented_eq : a.presented = b.presented

namespace Access.ActsLike

theorem refl (a : Access) : a.ActsLike a := ⟨rfl, rfl, rfl, rfl, rfl⟩

/-- Without credentials that are presented it does not matter which there are. -/
theorem of_anonymous {a : Access} (h : a.anonymous = true) (c : Option Credentials) :
    ({ a with credentials := c } : Access).ActsLike a :=
  ⟨rfl, rfl, rfl, rfl, by simp [presented, h]⟩

end Access.ActsLike

namespace Lister

variable {a b : Access}

theorem askPage_congr (h : a.ActsLike b) (n : Network σ) (repository : Reference) (uri : Uri)
    (authorization : Option Authorization) :
    askPage n a repository uri authorization = askPage n b repository uri authorization := by
  have hfallBack : mayFallBack a = mayFallBack b := by
    funext uri f
    rw [mayFallBack, mayFallBack, h.skipVerify_eq]
  rw [askPage, askPage, hfallBack]

theorem meet_congr (h : a.ActsLike b) (n : Network σ) (repository : Reference) (answer : Response) :
    meet n a repository answer = meet n b repository answer := by
  simp only [meet, h.presented_eq]

theorem getPage_congr (h : a.ActsLike b) (n : Network σ) (repository : Reference) (uri : Uri)
    (authorization : Option Authorization) :
    getPage n a repository uri authorization = getPage n b repository uri authorization := by
  simp only [getPage, askPage_congr h, meet_congr h]

theorem getPages_congr (h : a.ActsLike b) (n : Network σ) (repository : Reference) (left : Nat)
    (visited : List Uri) (uri : Uri) (authorization : Option Authorization) :
    getPages n a repository left visited uri authorization =
      getPages n b repository left visited uri authorization := by
  induction left generalizing visited uri authorization with
  | zero => rw [getPages, getPages]
  | succ left ih =>
      rw [getPages, getPages]
      simp only [getPage_congr h, ih]

/-- The talk about a list depends on the credentials that are presented only. -/
theorem list_congr (h : a.ActsLike b) (l : Lister) (n : Network σ) (tree : FileTree)
    (repository : Reference) : l.list n tree a repository = l.list n tree b repository := by
  simp only [list, Certificate.folder?, h.certDir_eq, h.token_eq, getPages_congr h]

end Lister

namespace CopyJob

theorem sideArguments_congr {a b : Access} (h : a.ActsLike b) (start : String)
    (authPath : Option String) : sideArguments start a authPath = sideArguments start b authPath := by
  simp only [sideArguments, verifyArguments, h.skipVerify_eq, h.certDir_eq, h.anonymous_eq,
    h.token_eq]

/-- The same job with other settings. -/
def withAccess (job : CopyJob) (access : Side → Access) : CopyJob :=
  { job with sourceAccess := access .source, destinationAccess := access .destination }

variable {job : CopyJob} {access : Side → Access}

@[simp] theorem access_withAccess (side : Side) :
    (job.withAccess access).access side = access side := by
  cases side <;> rfl

@[simp] theorem image_withAccess (side : Side) :
    (job.withAccess access).image side = job.image side := by
  cases side <;> rfl

theorem authFile?_congr (h : ∀ side, (access side).ActsLike (job.access side)) (side : Side) :
    (job.withAccess access).authFile? side = job.authFile? side := by
  simp only [authFile?, image_withAccess, access_withAccess, (h side).presented_eq]

/-- The call of a tool depends on the credentials that are presented only. -/
theorem call_congr (h : ∀ side, (access side).ActsLike (job.access side)) (program : String)
    (authPlace : Side → String) :
    (job.withAccess access).call program authPlace = job.call program authPlace := by
  have hpaths : (job.withAccess access).authPaths authPlace = job.authPaths authPlace := by
    funext side
    rw [authPaths, authPaths, authFile?_congr h]
  simp only [call, arguments, authFile?_congr h, hpaths, access_withAccess, sideArguments_congr (h _)]
  rfl

end CopyJob

/-! ## Where credentials are shown -/

/-- Each request for a list is founded on what was sent and answered before it. So credentials are
shown to the realm of a challenge, which wants a token, and with questions for pages behind a
challenge that wants them. Settings that present none have the same lists and requests whatever
credentials they have, and the same calls and auth files for every copy on each side of which they
are used. -/
theorem Lister.list_shows_credentials (l : Lister) (n : Network σ) (tree : FileTree)
    (access : Access) (repository : Reference) (s : σ) :
    (∃ (result : Except RegistryError (List String)) (s' : σ) (record : List Exchange),
      (l.list n tree access repository).run s = (result, s') ∧
      (l.list n.recording tree access repository).run (s, []) = (result, s', record) ∧
      ∀ before x after, record = before ++ x :: after →
        l.Founded access repository before x.request) ∧
    (access.anonymous = true → ∀ c : Option Credentials,
      (l.list n.recording tree { access with credentials := c } repository).run (s, []) =
        (l.list n.recording tree access repository).run (s, [])) ∧
    ∀ (job : CopyJob) (credentials : Side → Option Credentials),
      (∀ side, (job.access side).anonymous = true ∨
        credentials side = (job.access side).credentials) →
      ∀ program authPlace,
        (job.withAccess fun side => { job.access side with credentials := credentials side }).call
          program authPlace = job.call program authPlace := by
  refine ⟨?_, fun hanonymous c => ?_, fun job credentials hsides program authPlace => ?_⟩
  · obtain ⟨result, s', record, hrun, hrecord, visits, hlisted⟩ :=
      records_list access repository l n tree s []
    rw [List.nil_append] at hrecord
    refine ⟨result, s', record, hrun, hrecord, fun before x after hsplit => ?_⟩
    have hjustified : l.Justified access repository [] record := by
      cases hlisted with
      | unstarted => exact .nil
      | started hfirst hreading =>
          refine hreading.justified (.first hfirst) ?_
          cases htoken : access.token with
          | none => exact .nothing
          | some t => exact .token htoken
    exact hjustified.founded hsplit
  · rw [list_congr (.of_anonymous hanonymous c)]
  · refine CopyJob.call_congr (fun side => ?_) program authPlace
    rcases hsides side with hanonymous | hsame
    · exact .of_anonymous hanonymous _
    · rw [hsame]
      exact .refl _

/-- Credentials are shown with the second question for a page, behind a challenge that wants them. -/
example :
    let access : Access := { credentials := some ⟨"u", "p"⟩ }
    PreparedList.shownTo { isPlain := true } access
        [some (PreparedList.answer 401 (some ("www-authenticate", "Basic")) ""),
          some (PreparedList.page "a" none)] =
      [(some (.name "quay.io"), []), (some (.name "quay.io"), [.basic ⟨"u", "p"⟩])] := by
  decide +kernel

end ImageSync
