import ImageSync.Proofs.Registry.Revisit

/-!
# Next links are followed

A list does not end before its pages do: behind a page with a link to the next one, the page that
this link names is asked for, or the list ends with an error. Links that are overlooked make an
exception. The header may not be plain text, an earlier link of it may be taken, the target may be
empty or may not be an address; a page with such a link can be the last one of a list that comes
without an error.

## Main definitions

* `Link.Next header before target`: a link of a header that may be taken for the next page.
* `TagPage.Names page before target`: whether a page has a link to the next page.
* `TagPage.Overlooks page before target`: the ways in which such a link is overlooked.

## Main statements

* `Link.nextTarget?_of_next`: the first of several links is taken.
* `TagPage.next?_of_names`: a link to the next page is overlooked or taken.
* `Lister.list_follows_links`: what comes behind a page with a link to the next page.
* `Lister.list_passes_over_links`: two lists in which a link is overlooked.
-/

namespace ImageSync

open Http Text

variable {σ : Type}

/-! ## Links of a header -/

namespace Link

/-- A link with a target that says that it comes next, and what stands before it in a header. -/
structure Next (header before target : List Char) : Prop where
  target_ne_nil : target ≠ []
  notMem_target : '>' ∉ target
  exists_behind : ∃ behind, header = before ++ '<' :: (target ++ '>' :: behind) ∧
    saysNext behind = true

/-- Of the links that come next the first one is taken. -/
theorem nextTarget?_of_next {header before target : List Char} (h : Next header before target) :
    nextTarget? header = some target ∨ ∃ before' target', Next header before' target' ∧
      before'.length < before.length ∧ nextTarget? header = some target' := by
  obtain ⟨hne, hclose, behind, rfl, hnext⟩ := h
  induction before with
  | nil =>
      left
      simp [nextTarget?, splitFirst_append_cons behind hclose, hne, hnext]
  | cons c before ih =>
      -- Either a link begins here and is taken, or the search goes on.
      let rest := before ++ '<' :: (target ++ '>' :: behind)
      by_cases hhere : ∃ target' behind', c = '<' ∧ splitFirst '>' rest = some (target', behind') ∧
          target' ≠ [] ∧ saysNext behind' = true
      · obtain ⟨target', behind', rfl, hsplit, hne', hnext'⟩ := hhere
        obtain ⟨hrest, hclose'⟩ := eq_append_of_splitFirst hsplit
        refine .inr ⟨[], target', ⟨hne', hclose', behind', ?_, hnext'⟩, by simp, ?_⟩
        · exact congrArg ('<' :: ·) hrest
        · simp [nextTarget?, rest, hsplit, hne', hnext']
      · have hskip : nextTarget? (c :: rest) = nextTarget? rest := by
          rw [nextTarget?]
          grind
        rcases ih with hfirst | ⟨before', target', hlink, hlength, hfirst⟩
        · exact .inl (hskip.trans hfirst)
        · obtain ⟨hne', hclose', behind', hheader, hnext'⟩ := hlink
          refine .inr ⟨c :: before', target', ⟨hne', hclose', behind', ?_, hnext'⟩, ?_,
            hskip.trans hfirst⟩
          · exact congrArg (c :: ·) hheader
          · simpa using hlength

end Link

/-! ## Links of a page -/

/-- Only the characters of ASCII are written without a byte above them. -/
theorem Text.Utf8.map_charOfByte_utf8EncodeChar {c : Char}
    (h : ∀ b ∈ String.utf8EncodeChar c, b.toNat < 128) :
    (String.utf8EncodeChar c).map charOfByte = [c] := by
  rw [String.utf8EncodeChar] at h ⊢
  by_cases hc : c.val.toNat ≤ 127
  · have hbyte : (UInt8.ofNat c.val.toNat).toNat = c.val.toNat := by
      rw [UInt8.toNat_ofNat']
      omega
    rw [if_pos hc, List.map_singleton, charOfByte, hbyte]
    exact congrArg (fun c => [c]) (Char.ofNat_toNat c)
  · -- The last byte of a longer form has the bit of 128.
    rw [if_neg hc] at h
    have hlast : (UInt8.ofNat (c.val.toNat % 64 + 128)).toNat < 128 := by
      split at h
      · exact h _ (by simp)
      · split at h
        · exact h _ (by simp)
        · exact h _ (by simp)
    rw [UInt8.toNat_ofNat'] at hlast
    omega

/-- A text of which all bytes are plain has a character for each byte. -/
theorem Text.Utf8.map_charOfByte_encode {cs : List Char} (h : ∀ b ∈ encode cs, b.toNat < 128) :
    (encode cs).map charOfByte = cs := by
  induction cs with
  | nil => rfl
  | cons c cs ih =>
      have hsplit : encode (c :: cs) = String.utf8EncodeChar c ++ encode cs := rfl
      rw [hsplit] at h ⊢
      obtain ⟨hc, hcs⟩ := List.forall_mem_append.1 h
      rw [List.map_append, ih hcs, map_charOfByte_utf8EncodeChar hc, List.singleton_append]

/-- A header that can be read has a character for each byte. -/
theorem Http.Response.toList_of_header? {r : Response} {name header : String}
    (h : r.header? name = some header) : ∃ bytes, r.headers.lookup name = some bytes ∧
      (∀ b ∈ bytes, b.toNat < 128) ∧ header.toList = bytes.map Utf8.charOfByte := by
  rw [header?] at h
  split at h
  · cases h
  · next bytes hbytes =>
    split at h
    · next hplain =>
      cases h
      refine ⟨bytes, hbytes, fun b hb => ?_, String.toList_ofList⟩
      have hb := List.all_eq_true.1 hplain b hb
      simp only [Bool.or_eq_true, Bool.and_eq_true, decide_eq_true_eq] at hb
      rcases hb with rfl | ⟨-, hb⟩
      · decide
      · exact Nat.lt_of_le_of_lt (UInt8.le_iff_toNat_le.1 hb) (by decide)
    · cases h

namespace TagPage

/-- Whether the first header with links of a page has a link to the next page with this target, and
what stands before it. -/
structure Names (page : TagPage) (before : List UInt8) (target : String) : Prop where
  notMem_target : '>' ∉ target.toList
  exists_after : ∃ after, page.response.headers.lookup "link" =
    some (before ++ Utf8.encode ("<" ++ target ++ ">; rel=\"next\"").toList ++ after)

/-- How a link to the next page can be overlooked. -/
inductive Overlooks (page : TagPage) (before : List UInt8) (target : String) : Prop
  | illegible (h : page.response.header? "link" = none)
  | empty (h : target = "")
  | preceded {header : String} {before' target' : List Char}
      (h : page.response.header? "link" = some header)
      (hlink : Link.Next header.toList before' target') (hbefore : before'.length < before.length)
  | unresolved {e : Uri.Error} (h : page.uri.join target = .error e)

variable {page : TagPage} {before : List UInt8} {target : String}

/-- A header that is plain text has the link in its text. -/
theorem Names.next {header : String} (h : page.Names before target) (hne : target ≠ "")
    (hheader : page.response.header? "link" = some header) :
    ∃ before' : List Char, before'.length = before.length ∧
      Link.Next header.toList before' target.toList := by
  obtain ⟨hclose, after, hlookup⟩ := h
  obtain ⟨bytes, hbytes, hplain, htext⟩ := Response.toList_of_header? hheader
  obtain rfl := Option.some.inj (hbytes.symm.trans hlookup)
  have hentry := Utf8.map_charOfByte_encode fun b hb =>
    hplain b (List.mem_append_left after (List.mem_append_right before hb))
  rw [List.map_append, List.map_append, hentry] at htext
  refine ⟨before.map Utf8.charOfByte, List.length_map _, by simpa using hne, hclose,
    "; rel=\"next\"".toList ++ after.map Utf8.charOfByte, ?_, rfl⟩
  rw [htext]
  simp

/-- A link to the next page is overlooked, or it is the one that is followed. -/
theorem next?_of_names (h : page.Names before target) :
    page.Overlooks before target ∨
      ∃ next, page.uri.join target = .ok next ∧ page.next? = some next := by
  by_cases hne : target = ""
  · exact .inl (.empty hne)
  cases hheader : page.response.header? "link" with
  | none => exact .inl (.illegible hheader)
  | some header =>
      cases hjoin : page.uri.join target with
      | error e => exact .inl (.unresolved hjoin)
      | ok next =>
          obtain ⟨before', hlength, hlink⟩ := h.next hne hheader
          rcases Link.nextTarget?_of_next hlink with htaken | ⟨_, _, hlink', hbefore, -⟩
          · refine .inr ⟨next, rfl, ?_⟩
            rw [next?, hheader, Option.bind_some, Link.nextPage?, htaken, Option.bind_some,
              String.ofList_toList, hjoin]
            rfl
          · exact .inl (.preceded hheader hlink' (hlength ▸ hbefore))

end TagPage

/-! ## Lists -/

/-- Where a page has a next link, the list goes on there or ends with an error. -/
theorem Reading.onward_of_next {access : Access} {repository : Reference} {left : Nat}
    {visited : List Uri} {uri : Uri} {shown : Option Authorization}
    {result : Except RegistryError (List String)} {visits : List Visit} {rest : List Exchange}
    (h : Reading access repository left visited uri shown result visits rest)
    {done more : List Visit} {v : Visit} {next : Uri} (hvisits : visits = done ++ v :: more)
    (hnext : v.page.next? = some next) :
    (∃ e, result = .error e) ∨ ∃ v' more', more = v' :: more' ∧ v'.asked = next := by
  cases result with
  | error e => exact .inl ⟨e, rfl⟩
  | ok tags =>
      obtain ⟨-, -, -, hlast⟩ := h.of_ok
      have hchain := h.isChain
      subst hvisits
      cases more with
      | nil => simp [hnext] at hlast
      | cons v' more' =>
          obtain ⟨hleads, -⟩ := (List.isChain_append.1 hchain).2.1.rel
          exact .inr ⟨v', more', rfl, Option.some.inj (hleads.symm.trans hnext)⟩

/-- Behind each page that was read and has a link to the next page, the list ends with an error or
goes on with the page that the link names, unless the link is overlooked. A list without an error
holds the tags of all pages that were given. -/
theorem Lister.list_follows_links (l : Lister) (n : Network σ) (tree : FileTree) (access : Access)
    (repository : Reference) (s : σ) :
    ∃ (result : Except RegistryError (List String)) (s' : σ) (visits : List Visit)
      (rest : List Exchange),
      (l.list n tree access repository).run s = (result, s') ∧
      (l.list n.recording tree access repository).run (s, []) =
        (result, s', visits.flatMap Visit.record ++ rest) ∧
      (∀ v ∈ visits, v.IsRead access repository) ∧
      (∀ tags, result = .ok tags → rest = [] ∧ tags = visits.flatMap Visit.tags ∧
        (visits.flatMap Visit.record).filterMap Exchange.page? =
          visits.map fun v => v.page.response) ∧
      ∀ done v more, visits = done ++ v :: more → ∀ before target, v.page.Names before target →
        v.page.Overlooks before target ∨ (∃ e, result = .error e) ∨
        ∃ next v' more', v.page.uri.join target = .ok next ∧ more = v' :: more' ∧
          v'.asked = next := by
  obtain ⟨result, s', record, hrun, hrecord, visits, hlisted⟩ :=
    records_list access repository l n tree s []
  rw [List.nil_append] at hrecord
  cases hlisted with
  | unstarted => exact ⟨_, s', [], [], hrun, hrecord, by simp, nofun, by simp⟩
  | @started first _ _ rest hfirst hreading =>
      refine ⟨result, s', visits, rest, hrun, hrecord, hreading.isRead, fun tags hok => ?_,
        fun done v more hvisits before target hnames => ?_⟩
      · subst hok
        obtain ⟨hrest, htags, -⟩ := hreading.of_ok
        exact ⟨hrest, htags, filterMap_page?_flatMap_record hreading.isRead⟩
      · rcases TagPage.next?_of_names hnames with hoverlooked | ⟨next, hjoin, hnext⟩
        · exact .inl hoverlooked
        · rcases hreading.onward_of_next hvisits hnext with herror | ⟨v', more', hmore, hasked⟩
          · exact .inr (.inl herror)
          · exact .inr (.inr ⟨next, v', more', hjoin, hmore, hasked⟩)

namespace PreparedList

/-- A page with a tag and a header with links. -/
def headed (tag header : String) : Response :=
  { page tag none with headers := [("link", Utf8.encode header.toList)] }

/-- A first page with this header, where it is found. -/
def firstHeaded (header : String) : TagPage := ⟨headed "a" header, firstAddress, none⟩

end PreparedList

/-- A page names a next one that is no address, and the list ends behind it without an error. Another
page names a next one behind a link with a relation that only begins so, and the page behind this
other link is read instead. -/
theorem Lister.list_passes_over_links :
    ((PreparedList.firstHeaded "<https://>; rel=\"next\"").Names [] "https://" ∧
      PreparedList.read { isPlain := true } {}
          [some (PreparedList.headed "a" "<https://>; rel=\"next\""),
            some (PreparedList.page "b" none)] =
        (some ["a"], [PreparedList.firstAddress])) ∧
    (PreparedList.firstHeaded "</a>; rel=\"nextpage\", </b>; rel=\"next\"").Names
        (Utf8.encode "</a>; rel=\"nextpage\", ".toList) "/b" ∧
      PreparedList.read { isPlain := true } {}
          [some (PreparedList.headed "a" "</a>; rel=\"nextpage\", </b>; rel=\"next\""),
            some (PreparedList.page "b" none)] =
        (some ["a", "b"], [PreparedList.firstAddress,
          { PreparedList.firstAddress with path := .segments ["a"] }]) := by
  refine ⟨⟨⟨by decide, [], by decide +kernel⟩, by decide +kernel⟩,
    ⟨by decide, [], by decide +kernel⟩, by decide +kernel⟩

end ImageSync
