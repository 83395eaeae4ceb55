import ImageSync.Proofs.Registry.Reading

/-!
# Lists are complete

A list that comes without an error holds the tags of all its pages in order: each page but the last
has a next link, and the next page is the one that this link names. Nothing that was sent for it
failed, refusals apart that were met.

## Main definitions

* `TagPage.Holds page tags`: what has to stand in a page with these tags.

## Main statements

* `Lister.list_all_tags`: what was sent for a list that came without an error.
* `Lister.list_stays_with_asked`: a list that was sent on to a mirror and goes on without it.
-/

namespace ImageSync

open Http

variable {σ : Type}

/-! ## Pages with tags -/

/-- What has to stand in a page with tags: they are texts in an array, or there is no array. What
else stands there does not count. -/
def TagPage.Holds (page : TagPage) (tags : List String) : Prop :=
  page.response.bodyEnd = .whole ∧ ∃ o, Json.outline? page.response.body = some o ∧
    (o.member? ["tags"] "tags" = some .null ∧ tags = [] ∨
      o.member? ["tags"] "tags" = some (.array (tags.map .string)))

theorem eq_map_of_mapM_text? {items : List Json} {tags : List String}
    (h : items.mapM Json.text? = some tags) : items = tags.map .string := by
  induction items generalizing tags with
  | nil =>
      cases h
      rfl
  | cons item items ih =>
      rw [List.mapM_cons] at h
      obtain ⟨tag, htag, h⟩ := Option.bind_eq_some_iff.1 h
      obtain ⟨rest, hrest, h⟩ := Option.bind_eq_some_iff.1 h
      cases h
      cases item <;> cases htag
      rw [ih hrest, List.map_cons]

theorem Http.Response.eq_of_wholeBody {r : Response} {body : List UInt8}
    (h : r.wholeBody = .ok body) : r.bodyEnd = .whole ∧ body = r.body := by
  unfold wholeBody at h
  split at h
  · next hwhole => exact ⟨hwhole, (Except.ok.inj h).symm⟩
  · cases h
  · cases h

theorem TagPage.holds_of_tagsOf? {body : List UInt8} {tags : List String}
    (h : tagsOf? body = some tags) : ∃ o, Json.outline? body = some o ∧
      (o.member? ["tags"] "tags" = some .null ∧ tags = [] ∨
        o.member? ["tags"] "tags" = some (.array (tags.map .string))) := by
  obtain ⟨o, ho, h⟩ := Option.bind_eq_some_iff.1 h
  obtain ⟨member, hmember, h⟩ := Option.bind_eq_some_iff.1 h
  refine ⟨o, ho, ?_⟩
  cases member with
  | null =>
      cases h
      exact .inl ⟨hmember, rfl⟩
  | array items => exact .inr (by rw [hmember, eq_map_of_mapM_text? h])
  | _ => cases h

theorem TagPage.holds_of_tags {page : TagPage} {tags : List String} (h : page.tags = .ok tags) :
    page.Holds tags := by
  unfold TagPage.tags at h
  cases hbody : page.response.wholeBody with
  | error e =>
      rw [hbody] at h
      cases h
  | ok body =>
      rw [hbody] at h
      obtain ⟨hwhole, rfl⟩ := Http.Response.eq_of_wholeBody hbody
      cases htags : tagsOf? page.response.body with
      | none => simp [bind, Except.bind, htags] at h
      | some ts =>
          simp only [bind, Except.bind, htags] at h
          cases h
          exact ⟨hwhole, holds_of_tagsOf? htags⟩

/-- What is passed over need not be text. -/
example :
    let body := Text.Utf8.encode "\x7b\"name\":\"".toList ++ [0xff] ++
      Text.Utf8.encode "\\ud800\",\"tags\":[\"a\"]\x7d".toList
    TagPage.tagsOf? body = some ["a"] := by
  decide +kernel

/-! ## Lists that come without an error -/

/-- Reading without an error ends at a page that names no next one. Nothing is sent behind it. -/
theorem Reading.of_ok {access : Access} {repository : Reference} {left : Nat} {visited : List Uri}
    {uri : Uri} {shown : Option Authorization} {tags : List String} {visits : List Visit}
    {rest : List Exchange}
    (h : Reading access repository left visited uri shown (.ok tags) visits rest) :
    rest = [] ∧ tags = visits.flatMap Visit.tags ∧ visits.head?.map Visit.asked = some uri ∧
      (visits.getLast?.map fun v => v.page.next?) = some none := by
  generalize hresult : Except.ok tags = result at h
  induction h generalizing tags with
  | again => cases hresult
  | tooLong => cases hresult
  | unread => cases hresult
  | illegible => cases hresult
  | last h hv hnext =>
      cases hresult
      exact ⟨rfl, by simp, rfl, by simp [hnext]⟩
  | @onward left visited v next result visits rest h hv hnext more ih =>
      cases result with
      | error e => cases hresult
      | ok more =>
          cases hresult
          obtain ⟨hrest, hmore, hhead, hlast⟩ := ih rfl
          obtain ⟨v', visits, rfl⟩ : ∃ v' rest, visits = v' :: rest := by
            cases visits with
            | nil => cases hhead
            | cons v' visits => exact ⟨v', visits, rfl⟩
          exact ⟨hrest, by rw [hmore]; rfl, rfl, by rwa [List.getLast?_cons_cons]⟩

/-- The pages in the records of visits are those of the visits. -/
theorem filterMap_page?_flatMap_record {access : Access} {repository : Reference}
    {visits : List Visit} (h : ∀ v ∈ visits, v.IsRead access repository) :
    (visits.flatMap Visit.record).filterMap Exchange.page? =
      visits.map fun v => v.page.response := by
  induction visits with
  | nil => rfl
  | cons v visits ih =>
      obtain ⟨hv, hvisits⟩ := List.forall_mem_cons.1 h
      rw [List.flatMap_cons, List.filterMap_append, hv.paged.filterMap_page?, ih hvisits]
      rfl

/-- A list that comes without an error holds the tags of its pages in order. The first visit asks
for the first page, each other one for what the next link of the page before names, resolved against
the address that was asked for there, and the last page has no next link. The visits are all pages
that were given. A page was asked for at its address, or there over a connection that is not secure,
and all that was sent besides was passed. -/
theorem Lister.list_all_tags (l : Lister) (n : Network σ) (tree : FileTree) (access : Access)
    (repository : Reference) {s s' : σ} {tags : List String}
    (h : (l.list n tree access repository).run s = (.ok tags, s')) :
    ∃ (first : Uri) (visits : List Visit),
      (l.list n.recording tree access repository).run (s, []) =
        (.ok tags, s', visits.flatMap Visit.record) ∧
      tags = visits.flatMap Visit.tags ∧
      l.firstPage repository = .ok first ∧ visits.head?.map Visit.asked = some first ∧
      visits.IsChain Visit.LeadsTo ∧ (visits.getLast?.map fun v => v.page.next?) = some none ∧
      (visits.flatMap Visit.record).filterMap Exchange.page? =
        (visits.map fun v => v.page.response) ∧
      ∀ v ∈ visits, v.page.Holds v.tags ∧ v.page.response.isSuccess = true ∧
        (v.page.uri = v.asked ∨ v.page.uri = v.asked.withScheme "http" ∧
          v.asked.scheme = "https" ∧ access.skipVerify = some true) ∧
        ∃ before, v.record =
            before ++ [⟨pageRequest v.page.uri v.page.authorization, .ok v.page.response⟩] ∧
          ∀ x ∈ before, x.IsPassed access := by
  obtain ⟨result, s'', record, hrun, hrecord, visits, hlisted⟩ :=
    records_list access repository l n tree s []
  obtain ⟨rfl, rfl⟩ := Prod.mk.inj (h.symm.trans hrun)
  cases hlisted with
  | @started first _ _ rest hfirst hreading =>
      obtain ⟨rfl, htags, hhead, hlast⟩ := hreading.of_ok
      rw [List.nil_append, List.append_nil] at hrecord
      refine ⟨first, visits, hrecord, htags, hfirst, hhead, hreading.isChain, hlast,
        filterMap_page?_flatMap_record hreading.isRead, fun v hv => ?_⟩
      have hread := hreading.isRead v hv
      obtain ⟨hsuccess, huri, hbefore⟩ := hread.paged.of_ok
      exact ⟨TagPage.holds_of_tags hread.tags_eq, hsuccess, huri, hbefore⟩

namespace PreparedList

/-- Access to a registry without a secure connection. -/
def plainAccess : Access := { skipVerify := some true }

/-- A secure connection is not made; the first page wants a token and names a second one. -/
def twoPages : List (Option Response) := [
  none,
  some (answer 401 (some ("www-authenticate", "Bearer realm=\"https://auth.docker.io/token\"")) ""),
  some (answer 200 none "\x7b\"token\":\"t\"\x7d"),
  some (page "a" (some "?page=2")),
  some (page "b" none)]

end PreparedList

/-- Five exchanges give a list with the tags of two pages. -/
theorem Lister.list_all_tags_two_pages :
    ∃ (s' : List (Option Response)) (visits : List Visit),
      (({} : Lister).list .prepared .empty PreparedList.plainAccess PreparedList.repository).run
        PreparedList.twoPages = (.ok ["a", "b"], s') ∧
      ["a", "b"] = visits.flatMap Visit.tags ∧ visits.IsChain Visit.LeadsTo ∧
      (visits.flatMap Visit.record).length = 5 := by
  have hok : ((({} : Lister).list .prepared .empty PreparedList.plainAccess
      PreparedList.repository).run PreparedList.twoPages).1.toOption = some ["a", "b"] := by
    decide +kernel
  have hlength : ((({} : Lister).list Network.prepared.recording .empty PreparedList.plainAccess
      PreparedList.repository).run (PreparedList.twoPages, [])).2.2.length = 5 := by
    decide +kernel
  obtain ⟨s', hrun⟩ := Talk.exists_run_of_toOption hok
  obtain ⟨first, visits, hrecord, htags, -, -, hchain, -⟩ :=
    Lister.list_all_tags {} .prepared .empty PreparedList.plainAccess PreparedList.repository hrun
  rw [hrecord] at hlength
  exact ⟨s', visits, hrun, htags, hchain, hlength⟩

namespace PreparedList

/-- An answer that sends the asker on. -/
def sentOn (address : String) : Response := answer 301 (some ("location", address)) ""

/-- The tags of a list with these answers, of which those are followed that send the asker on, and the
addresses of all requests. -/
def followed (l : Lister) (access : Access) (answers : List (Option Response)) :
    Option (List String) × List String :=
  let (result, _, record) :=
    (l.list Network.prepared.recording.following .empty access repository).run (answers, [])
  (result.toOption, record.map fun x => x.request.uri.text)

end PreparedList

/-- The first page comes from a mirror and has a relative link. What it names is asked for at the
registry, where the first page was asked for, and not at the mirror, where it was found. -/
theorem Lister.list_stays_with_asked :
    PreparedList.followed { isPlain := true } {}
        (some (PreparedList.sentOn "http://mirror.example.com/list") ::
          PreparedList.linked "?page=2") =
      (some ["a", "b"], ["http://quay.io/v2/foo/bar/tags/list", "http://mirror.example.com/list",
        "http://quay.io/v2/foo/bar/tags/list?page=2"]) ∧
      ((Uri.ofString "http://mirror.example.com/list").toOption.bind fun mirror =>
        (Link.nextPage? mirror "<?page=2>; rel=next").map Uri.text) =
        some "http://mirror.example.com/list?page=2" := by
  decide +kernel

end ImageSync
