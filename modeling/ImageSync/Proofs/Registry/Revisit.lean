import ImageSync.Proofs.Registry.Complete

/-!
# Pages are asked for once

No address is asked for twice in one list, and a next link back to one of them ends the reading
with an error. What is sent is not the whole address, and not the address at all where no secure
connection is made. So a page can be read twice if one of its two addresses has a part that is not
sent, or is read over a connection that is not secure in place of a secure one.

## Main definitions

* `Uri.sent u`: the part of an address that reaches a server.
* `Visit.IsAltered v`: whether what is sent for a visit is not what is asked for.

## Main statements

* `Lister.list_asks_once`: no address is asked for twice.
* `Lister.list_reads_twice`: two lists with a page that is read twice.
-/

namespace ImageSync

open Http

variable {σ : Type}

/-- What of an address reaches a server: scheme, host, port, path and query. -/
def Uri.sent (u : Uri) : Uri := { u with user := "", password := "", fragment := none }

theorem Uri.sent_eq_self {u : Uri} (huser : u.hasUser = false) (hfragment : u.fragment = none) :
    u.sent = u := by
  obtain ⟨huser, hpassword⟩ : u.user = "" ∧ u.password = "" := by simpa [hasUser] using huser
  cases u
  simp_all [sent]

/-- Whether what is sent for a visit is not what is asked for. -/
def Visit.IsAltered (v : Visit) : Prop :=
  v.page.uri ≠ v.asked ∨ v.asked.hasUser = true ∨ v.asked.fragment ≠ none

theorem Visit.sent_eq_asked {v : Visit} (h : ¬v.IsAltered) : v.page.uri.sent = v.asked := by
  obtain ⟨huri, huser, hfragment⟩ : v.page.uri = v.asked ∧ v.asked.hasUser = false ∧
      v.asked.fragment = none := by
    simpa [IsAltered] using h
  rw [huri, Uri.sent_eq_self huser hfragment]

namespace Reading

variable {access : Access} {repository : Reference} {left : Nat} {visited : List Uri} {uri : Uri}
  {shown : Option Authorization} {result : Except RegistryError (List String)}
  {visits : List Visit} {rest : List Exchange}

/-- Addresses that were visited are not asked for, and no other one is asked for twice. -/
theorem nodup_asked (h : Reading access repository left visited uri shown result visits rest) :
    (visits.map Visit.asked).Nodup ∧ ∀ v ∈ visits, v.asked ∉ visited := by
  induction h with
  | again => simp
  | tooLong => simp
  | unread => simp
  | illegible => simp
  | last h hv hnext => simpa using h
  | onward h hv hnext more ih =>
      obtain ⟨hnodup, hfresh⟩ := ih
      refine ⟨List.nodup_cons.2 ⟨fun hmem => ?_, hnodup⟩,
        List.forall_mem_cons.2 ⟨h, fun v hv => ?_⟩⟩
      · obtain ⟨v, hv, hasked⟩ := List.mem_map.1 hmem
        exact hfresh v hv (hasked ▸ List.mem_cons_self)
      · exact fun hmem => hfresh v hv (List.mem_cons_of_mem _ hmem)

/-- Reading ends at an address that was visited. -/
theorem of_mem_visited (h : Reading access repository left visited uri shown result visits rest)
    (hmem : uri ∈ visited) :
    visits = [] ∧ rest = [] ∧ result = .error (Lister.revisiting repository uri) := by
  cases h with
  | again => exact ⟨rfl, rfl, rfl⟩
  | tooLong h => exact absurd hmem h
  | unread h => exact absurd hmem h
  | illegible h => exact absurd hmem h
  | last h => exact absurd hmem h
  | onward h => exact absurd hmem h

/-- Reading ends at a next link to an address that was visited or asked for. -/
theorem of_next_mem (h : Reading access repository left visited uri shown result visits rest)
    {done more : List Visit} {v : Visit} {next : Uri} (hvisits : visits = done ++ v :: more)
    (hnext : v.page.next? = some next)
    (hmem : next ∈ (done ++ [v]).map Visit.asked ∨ next ∈ visited) :
    more = [] ∧ rest = [] ∧ result = .error (Lister.revisiting repository next) := by
  induction h generalizing done with
  | again => simp at hvisits
  | tooLong => simp at hvisits
  | unread => simp at hvisits
  | illegible => simp at hvisits
  | last h hv hlast =>
      cases done with
      | nil =>
          cases hvisits
          rw [hlast] at hnext
          cases hnext
      | cons d done => simp at hvisits
  | onward h hv hfirst hmore ih =>
      -- Either the link stands on the page that is read now, and the address is the next one, or on a
      -- later page, and what was asked for now counts as visited there.
      cases done with
      | nil =>
          cases hvisits
          obtain rfl := Option.some.inj (hfirst.symm.trans hnext)
          obtain ⟨rfl, rfl, rfl⟩ := hmore.of_mem_visited (by simpa using hmem)
          exact ⟨rfl, rfl, rfl⟩
      | cons d done =>
          cases hvisits
          obtain ⟨hnil, hrest, rfl⟩ := ih rfl (by simpa [or_assoc, or_left_comm] using hmem)
          exact ⟨hnil, hrest, rfl⟩

end Reading

/-- In a list no address is asked for twice, and a next link to an address that was asked for ends
it with an error. Of two visits for which the same is sent at least one is altered: its address has a
user or a fragment, or its page was found elsewhere. -/
theorem Lister.list_asks_once (l : Lister) (n : Network σ) (tree : FileTree) (access : Access)
    (repository : Reference) (s : σ) :
    ∃ (result : Except RegistryError (List String)) (s' : σ) (visits : List Visit)
      (rest : List Exchange),
      (l.list n tree access repository).run s = (result, s') ∧
      (l.list n.recording tree access repository).run (s, []) =
        (result, s', visits.flatMap Visit.record ++ rest) ∧
      (∀ v ∈ visits, v.IsRead access repository) ∧
      (∀ tags, result = .ok tags → rest = [] ∧ tags = visits.flatMap Visit.tags) ∧
      (visits.map Visit.asked).Nodup ∧
      visits.Pairwise (fun v v' => v.page.uri.sent = v'.page.uri.sent →
        v.IsAltered ∨ v'.IsAltered) ∧
      ∀ done v more next, visits = done ++ v :: more → v.page.next? = some next →
        next ∈ (done ++ [v]).map Visit.asked →
        more = [] ∧ rest = [] ∧ result = .error (revisiting repository next) := by
  obtain ⟨result, s', record, hrun, hrecord, visits, hlisted⟩ :=
    records_list access repository l n tree s []
  rw [List.nil_append] at hrecord
  cases hlisted with
  | unstarted => exact ⟨_, s', [], [], hrun, hrecord, by simp, nofun, by simp, by simp, by simp⟩
  | @started first _ _ rest hfirst hreading =>
      obtain ⟨hnodup, -⟩ := hreading.nodup_asked
      refine ⟨result, s', visits, rest, hrun, hrecord, hreading.isRead, fun tags hok => ?_, hnodup,
        (List.pairwise_map.1 hnodup).imp fun {v v'} hne hsent => ?_,
        fun done v more next hvisits hnext hmem => hreading.of_next_mem hvisits hnext (.inl hmem)⟩
      · subst hok
        obtain ⟨hrest, htags, -⟩ := hreading.of_ok
        exact ⟨hrest, htags⟩
      · by_contra hneither
        obtain ⟨hv, hv'⟩ := not_or.1 hneither
        rw [Visit.sent_eq_asked hv, Visit.sent_eq_asked hv'] at hsent
        exact hne hsent

namespace PreparedList

/-- The tags of a list with these answers, and where its pages were read. -/
def read (l : Lister) (access : Access) (answers : List (Option Response)) :
    Option (List String) × List Uri :=
  let (result, _, record) :=
    (l.list Network.prepared.recording .empty access repository).run (answers, [])
  (result.toOption, (record.filter fun x => x.page?.isSome).map fun x => x.request.uri.sent)

/-- The address of the first page without a secure connection. -/
def firstAddress : Uri where
  scheme := "http"
  host := some (.name "quay.io")
  path := .segments ["v2", "foo", "bar", "tags", "list"]

end PreparedList

/-- A page is read twice if it links to itself with a fragment, or if it links to itself and is read
over a connection that is not secure in place of a secure one. -/
theorem Lister.list_reads_twice :
    PreparedList.read { isPlain := true } {} (PreparedList.linked "/v2/foo/bar/tags/list#2") =
        (some ["a", "b"], [PreparedList.firstAddress, PreparedList.firstAddress]) ∧
      PreparedList.read {} PreparedList.plainAccess
          (none :: PreparedList.linked "/v2/foo/bar/tags/list") =
        (some ["a", "b"], [PreparedList.firstAddress, PreparedList.firstAddress]) := by
  decide +kernel

end ImageSync
