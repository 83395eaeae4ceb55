import ImageSync.Proofs.Registry.Page
import Mathlib.Data.List.Chain

/-!
# What is sent for a list

A list is read page by page. Each page that is read is a visit, and the next link of its page leads
to the next one. The reading of a list goes by rules, one for each way that it can end and one for
going on; they say which visits there are and what was sent besides.

## Main definitions

* `Visit`: a page that was read, with its tags and with what was sent for it.
* `Visit.LeadsTo v v'`: the next link of the page of `v` is what `v'` asks for.
* `Reading`, `Lister.Listed`: the rules for a list, from an address on and as a whole.

## Main statements

* `Lister.records_list`: a list goes by the rules.
* `Reading.isChain`: each visit leads to the next one.
-/

namespace ImageSync

open Http

variable {σ : Type}

/-- A page that was read for a list. -/
structure Visit where
  /-- The address that was asked for. -/
  asked : Uri
  /-- Who asked first. -/
  shown : Option Authorization
  page : TagPage
  tags : List String
  /-- What was sent for the page. -/
  record : List Exchange

namespace Visit

/-- What has to be sent for a page and to stand in it. -/
structure IsRead (access : Access) (repository : Reference) (v : Visit) : Prop where
  paged : Lister.Paged access repository v.asked v.shown (.ok v.page) v.record
  tags_eq : v.page.tags = .ok v.tags

/-- Whether the next link of one visit is what another one asks for, with what was shown last. -/
def LeadsTo (v v' : Visit) : Prop :=
  v.page.next? = some v'.asked ∧ v'.shown = v.page.authorization

end Visit

/-! ## Rules -/

namespace Lister

/-- The error for a page that was visited before. -/
def revisiting (repository : Reference) (uri : Uri) : RegistryError :=
  .badResponse ("tag list pagination for " ++ repository.name ++ " revisits " ++ uri.pathText)

/-- The error for a list with too many pages. -/
def tooLong (repository : Reference) : RegistryError :=
  .badResponse ("tag list for " ++ repository.name ++ " exceeds " ++ toString maxPages ++ " pages")

end Lister

/-- How a list can be read from an address on: its result, the visits and what is sent behind them.
At most `left` pages are read, and none that was visited. -/
inductive Reading (access : Access) (repository : Reference) :
    (left : Nat) → (visited : List Uri) → Uri → Option Authorization →
      Except RegistryError (List String) → List Visit → List Exchange → Prop
  | again {left : Nat} {visited : List Uri} {uri : Uri} {shown : Option Authorization}
      (h : uri ∈ visited) :
      Reading access repository left visited uri shown
        (.error (Lister.revisiting repository uri)) [] []
  | tooLong {visited : List Uri} {uri : Uri} {shown : Option Authorization} (h : uri ∉ visited) :
      Reading access repository 0 visited uri shown (.error (Lister.tooLong repository)) [] []
  | unread {left : Nat} {visited : List Uri} {uri : Uri} {shown : Option Authorization}
      {e : RegistryError} {record : List Exchange} (h : uri ∉ visited)
      (hpage : Lister.Paged access repository uri shown (.error e) record) :
      Reading access repository (left + 1) visited uri shown (.error e) [] record
  | illegible {left : Nat} {visited : List Uri} {uri : Uri} {shown : Option Authorization}
      {page : TagPage} {e : RegistryError} {record : List Exchange} (h : uri ∉ visited)
      (hpage : Lister.Paged access repository uri shown (.ok page) record)
      (htags : page.tags = .error e) :
      Reading access repository (left + 1) visited uri shown (.error e) [] record
  | last {left : Nat} {visited : List Uri} {v : Visit} (h : v.asked ∉ visited)
      (hv : v.IsRead access repository) (hnext : v.page.next? = none) :
      Reading access repository (left + 1) visited v.asked v.shown (.ok v.tags) [v] []
  | onward {left : Nat} {visited : List Uri} {v : Visit} {next : Uri}
      {result : Except RegistryError (List String)} {visits : List Visit} {rest : List Exchange}
      (h : v.asked ∉ visited) (hv : v.IsRead access repository) (hnext : v.page.next? = some next)
      (more : Reading access repository left (v.asked :: visited) next v.page.authorization result
        visits rest) :
      Reading access repository (left + 1) visited v.asked v.shown
        (result.map fun tags => v.tags ++ tags) (v :: visits) rest

namespace Lister

/-- How a list can be read: its result, the visits and what is sent. It may fail before anything is
sent, or be read from its first page on. -/
inductive Listed (l : Lister) (access : Access) (repository : Reference) :
    Except RegistryError (List String) → List Visit → List Exchange → Prop
  | unstarted {e : RegistryError} : l.Listed access repository (.error e) [] []
  | started {first : Uri} {result : Except RegistryError (List String)} {visits : List Visit}
      {rest : List Exchange} (hfirst : l.firstPage repository = .ok first)
      (hreading : Reading access repository maxPages [] first (access.token.map .bearer) result
        visits rest) : l.Listed access repository result visits (visits.flatMap Visit.record ++ rest)

variable (access : Access) (repository : Reference)

/-- Reading from an address on goes by the rules. -/
theorem records_getPages (n : Network σ) (left : Nat) (visited : List Uri) (uri : Uri)
    (shown : Option Authorization) :
    (getPages n access repository left visited uri shown).Records
      (getPages n.recording access repository left visited uri shown)
      fun result new => ∃ visits rest, new = visits.flatMap Visit.record ++ rest ∧
        Reading access repository left visited uri shown result visits rest := by
  induction left generalizing visited uri shown with
  | zero =>
      by_cases h : uri ∈ visited
      · rw [getPages, getPages, if_pos h, if_pos h]
        exact .throw ⟨[], [], rfl, .again h⟩
      · rw [getPages, getPages, if_neg h, if_neg h]
        exact .throw ⟨[], [], rfl, .tooLong h⟩
  | succ left ih =>
      by_cases h : uri ∈ visited
      · rw [getPages, getPages, if_pos h, if_pos h]
        exact .throw ⟨[], [], rfl, .again h⟩
      · rw [getPages, getPages, if_neg h, if_neg h]
        refine .bind (records_getPage access repository uri shown n)
          (fun e record hpage => ⟨[], record, rfl, .unread h hpage⟩) fun page record hpage => ?_
        refine .lift_bind (fun e htags => ⟨[], record, by simp, .illegible h hpage htags⟩)
          fun tags htags => ?_
        let v : Visit := ⟨uri, shown, page, tags, record⟩
        have hv : v.IsRead access repository := ⟨hpage, htags⟩
        cases hnext : page.next? with
        | none => exact .pure ⟨[v], [], by simp [v], .last h hv hnext⟩
        | some next =>
            refine Talk.records_note_bind ?_
            refine .bind (ih (uri :: visited) next page.authorization)
              (fun e new hmore => ?_) fun more new hmore => ?_
            · obtain ⟨visits, rest, rfl, hmore⟩ := hmore
              exact ⟨v :: visits, rest, by simp [v], .onward (v := v) h hv hnext hmore⟩
            · obtain ⟨visits, rest, rfl, hmore⟩ := hmore
              exact .pure ⟨v :: visits, rest, by simp [v], .onward (v := v) h hv hnext hmore⟩

/-- A list goes by the rules from its first page on, if it comes to that. -/
theorem records_list (l : Lister) (n : Network σ) (tree : FileTree) :
    (l.list n tree access repository).Records (l.list n.recording tree access repository)
      fun result record => ∃ visits, l.Listed access repository result visits record := by
  -- The certificates that are checked before are no part of the talk.
  have hpages : (do
        let uri ← l.firstPage repository
        getPages n access repository maxPages [] uri (access.token.map .bearer) :
          Talk σ (List String)).Records
      (do
        let uri ← l.firstPage repository
        getPages n.recording access repository maxPages [] uri (access.token.map .bearer))
      fun result record => ∃ visits, l.Listed access repository result visits record := by
    refine .lift_bind (fun e _ => ⟨[], .unstarted⟩) fun first hfirst => ?_
    refine (records_getPages access repository n maxPages [] first _).mono fun result new hnew => ?_
    obtain ⟨visits, rest, rfl, hreading⟩ := hnew
    exact ⟨visits, .started hfirst hreading⟩
  unfold list
  cases Certificate.folder? tree l.systemFolders access repository.host with
  | none => exact hpages
  | some folder => exact .lift_bind (fun e _ => ⟨[], .unstarted⟩) fun _ _ => hpages

end Lister

/-! ## What the rules say about visits -/

namespace Reading

variable {access : Access} {repository : Reference} {left : Nat} {visited : List Uri} {uri : Uri}
  {shown : Option Authorization} {result : Except RegistryError (List String)}
  {visits : List Visit} {rest : List Exchange}

theorem isRead (h : Reading access repository left visited uri shown result visits rest) :
    ∀ v ∈ visits, v.IsRead access repository := by
  induction h with
  | again => simp
  | tooLong => simp
  | unread => simp
  | illegible => simp
  | last h hv hnext => simpa using hv
  | onward h hv hnext more ih => exact List.forall_mem_cons.2 ⟨hv, ih⟩

/-- The first visit asks for the address from which the list is read. -/
theorem asked_of_mem_head?
    (h : Reading access repository left visited uri shown result visits rest) :
    ∀ v ∈ visits.head?, v.asked = uri ∧ v.shown = shown := by
  intro v hv
  cases h <;> cases hv <;> exact ⟨rfl, rfl⟩

theorem isChain (h : Reading access repository left visited uri shown result visits rest) :
    visits.IsChain Visit.LeadsTo := by
  induction h with
  | again => exact .nil
  | tooLong => exact .nil
  | unread => exact .nil
  | illegible => exact .nil
  | last h hv hnext => exact .singleton _
  | onward h hv hnext more ih =>
      refine List.isChain_cons.2 ⟨fun v' hv' => ?_, ih⟩
      obtain ⟨hasked, hshown⟩ := more.asked_of_mem_head? v' hv'
      exact ⟨by rw [hnext, hasked], hshown⟩

end Reading

/-! ## Prepared answers -/

/-- The network that gives prepared answers, one after the other. Where one is missing no connection
is made. -/
def Http.Network.prepared : Network (List (Option Response)) where
  exchange r
    | some answer :: rest => (.ok answer, rest)
    | none :: rest => (.error (.noConnection r.uri), rest)
    | [] => (.error (.noConnection r.uri), [])

namespace PreparedList

def repository : Reference := ⟨"quay.io", "foo/bar", none, none⟩

/-- An answer with a header and a body. -/
def answer (status : Nat) (header : Option (String × String)) (body : String) : Response where
  status := status
  headers := header.toList.map fun h => (h.1, Text.Utf8.encode h.2.toList)
  body := Text.Utf8.encode body.toList

/-- A page with a tag and a link to the next page. -/
def page (tag : String) (link : Option String) : Response :=
  answer 200 (link.map fun target => ("link", "<" ++ target ++ ">; rel=next"))
    ("\x7b\"tags\":[\"" ++ tag ++ "\"]\x7d")

/-- A first page with a link, and the answer to what this link names. -/
def linked (link : String) : List (Option Response) :=
  [some (page "a" (some link)), some (page "b" none)]

end PreparedList

end ImageSync
