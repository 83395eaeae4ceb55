import ImageSync.Proofs.Registry.Reading

/-!
# Hosts that pages are asked from

The questions for the pages of a list go to the host of its first page until a next link names
another host. From then on they go there, with the authorization that was shown before.

## Main statements

* `Lister.list_page_hosts`: where the questions for pages go.
* `Lister.list_shows_token_elsewhere`: a list of which the next link takes a token to another host.
-/

namespace ImageSync

open Http

variable {σ : Type}

/-- An element of two lists in a row stands in the first, or the first stands before it. -/
theorem mem_or_eq_append_of_append_eq {α : Type} {a b before after : List α} {x : α}
    (h : a ++ b = before ++ x :: after) :
    x ∈ a ∨ ∃ later, before = a ++ later ∧ b = later ++ x :: after := by
  rcases List.append_eq_append_iff.1 h with ⟨later, hbefore, hb⟩ | ⟨later, ha, hlater⟩
  · exact .inr ⟨later, hbefore, hb⟩
  · cases later with
    | nil => exact .inr ⟨[], by simpa using ha.symm, by simpa using hlater.symm⟩
    | cons y later =>
        cases hlater
        exact .inl (by simp [ha])

/-- A question for a page goes to the host of the address that the list is read from, or to one that
the next link of a page names which was read before. -/
theorem Reading.host_eq {access : Access} {repository : Reference} {left : Nat} {visited : List Uri}
    {uri : Uri} {shown : Option Authorization} {result : Except RegistryError (List String)}
    {visits : List Visit} {rest : List Exchange}
    (h : Reading access repository left visited uri shown result visits rest)
    {before after : List Exchange} {x : Exchange}
    (hrecord : visits.flatMap Visit.record ++ rest = before ++ x :: after) (hx : x.IsForPage) :
    x.request.uri.host = uri.host ∨ ∃ done v more next, visits = done ++ v :: more ∧
      (done ++ [v]).flatMap Visit.record <+: before ∧ v.page.next? = some next ∧
      x.request.uri.host = next.host := by
  induction h generalizing before with
  | again => simp at hrecord
  | tooLong => simp at hrecord
  | unread h hpage => exact .inl (hpage.host_eq.1 x (by simp_all) hx)
  | illegible h hpage htags => exact .inl (hpage.host_eq.1 x (by simp_all) hx)
  | last h hv hnext => exact .inl (hv.paged.host_eq.1 x (by simp_all) hx)
  | @onward left visited v next result visits rest h hv hnext more ih =>
      rw [List.flatMap_cons, List.append_assoc] at hrecord
      -- The question belongs to the page that is read now, or to what is read from its next link on.
      rcases mem_or_eq_append_of_append_eq hrecord with hmem | ⟨later, hbefore, hlater⟩
      · exact .inl (hv.paged.host_eq.1 x hmem hx)
      · right
        rcases ih hlater with hhost | ⟨done, v', more', next', hvisits, hprefix, hnext', hhost⟩
        · exact ⟨[], v, visits, next, rfl, by simp [hbefore], hnext, hhost⟩
        · refine ⟨v :: done, v', more', next', by rw [hvisits]; rfl, ?_, hnext', hhost⟩
          rw [List.cons_append, List.flatMap_cons, hbefore]
          exact (List.prefix_append_right_inj v.record).2 hprefix

/-- Each question for a page of a list goes to the host of the first page, or to a host that the
next link of a page names which was read before it. -/
theorem Lister.list_page_hosts (l : Lister) (n : Network σ) (tree : FileTree) (access : Access)
    (repository : Reference) (s : σ) :
    ∃ (result : Except RegistryError (List String)) (s' : σ) (record : List Exchange)
      (visits : List Visit),
      (l.list n tree access repository).run s = (result, s') ∧
      (l.list n.recording tree access repository).run (s, []) = (result, s', record) ∧
      (∀ v ∈ visits, v.IsRead access repository) ∧ visits.flatMap Visit.record <+: record ∧
      ∀ before x after, record = before ++ x :: after → x.IsForPage →
        (∃ first, l.firstPage repository = .ok first ∧ x.request.uri.host = first.host) ∨
        ∃ done v more next, visits = done ++ v :: more ∧
          (done ++ [v]).flatMap Visit.record <+: before ∧ v.page.next? = some next ∧
          x.request.uri.host = next.host := by
  obtain ⟨result, s', record, hrun, hrecord, visits, hlisted⟩ :=
    records_list access repository l n tree s []
  rw [List.nil_append] at hrecord
  refine ⟨result, s', record, visits, hrun, hrecord, ?_⟩
  cases hlisted with
  | unstarted => exact ⟨by simp, List.nil_prefix, by simp⟩
  | @started first _ _ rest hfirst hreading =>
      refine ⟨hreading.isRead, List.prefix_append _ _, fun before x after hsplit hx => ?_⟩
      rcases hreading.host_eq hsplit hx with hhost | hlinked
      · exact .inl ⟨first, hfirst, hhost⟩
      · exact .inr hlinked

namespace PreparedList

/-- Access with a token for the registry. -/
def tokenAccess : Access := { token := some "t" }

/-- The questions for the pages of a list with these answers: the host and what is shown to it. -/
def shownTo (l : Lister) (access : Access) (answers : List (Option Response)) :
    List (Option Uri.Host × List Authorization) :=
  let (_, _, record) :=
    (l.list Network.prepared.recording .empty access repository).run (answers, [])
  (record.filter fun x => x.IsForPage).map fun x => (x.request.uri.host, x.request.authorization)

end PreparedList

/-- A link from the first page to another host has the token of the registry shown there. -/
theorem Lister.list_shows_token_elsewhere :
    PreparedList.shownTo { isPlain := true } PreparedList.tokenAccess
        (PreparedList.linked "http://mirror.example.com/page2") =
      [(some (.name "quay.io"), [.bearer "t"]),
        (some (.name "mirror.example.com"), [.bearer "t"])] := by
  decide +kernel

end ImageSync
