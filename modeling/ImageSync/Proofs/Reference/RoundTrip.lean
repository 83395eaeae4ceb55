import ImageSync.Proofs.Reference.Grammar

/-!
# A written reference reads back as itself

Every reference that comes from reading a text, and from the steps to its repository, to a tag and
to a digest, is well formed, and a well-formed reference is the one that its full name is read as.
So no two of them share their full name.

## Main definitions

* `Reference.WellFormed`: what reading a text establishes and the steps preserve.
* `Reference.Derived`: references that come from reading a text and from steps.
* `Reference.completed`: a host and what follows it, with short names completed.

## Main statements

* `Reference.parse_text`: the full name of a well-formed reference reads back.
* `Reference.Derived.round_trip`: the same for every derived reference, which is well formed.
-/

namespace ImageSync.Reference

open Text

/-- What is known of a reference that was read: its host is valid and is taken for a host, its path
is valid and has two components or more on the default registry, and the name is not too long. -/
structure WellFormed (r : Reference) : Prop where
  validHost : isHost r.host.toList = true
  recognisedHost : looksLikeHost r.host.toList = true
  currentHost : r.host ≠ legacyHost
  validPath : isPath r.path.toList = true
  longPath : r.host = defaultHost → '/' ∈ r.path.toList
  size_name_le : Utf8.size r.name.toList ≤ maxNameLength
  validTag : ∀ tag, r.tag = some tag → isTag tag.toList = true
  validDigest : ∀ digest, r.digest = some digest → Digest.parse digest.text = .ok digest

/-- References that come from reading a text and from the steps that change tag and digest. -/
inductive Derived : Reference → Prop
  | parsed {input : String} {r : Reference} (h : parse input = .ok r) : Derived r
  | repository {r : Reference} (h : Derived r) : Derived r.repository
  | withTag {r r' : Reference} {tag : String} (h : Derived r) (htag : r.withTag tag = .ok r') :
      Derived r'
  | withDigest {r : Reference} {input : String} {digest : Digest} (h : Derived r)
      (hdigest : Digest.parse input = .ok digest) : Derived (r.withDigest digest)

/-! ## Reading establishes well-formedness -/

/-- A host in its present spelling. -/
def presentHost (host : List Char) : List Char :=
  if host = legacyHost.toList then defaultHost.toList else host

theorem looksLikeHost_presentHost {host : List Char} (h : looksLikeHost host = true) :
    looksLikeHost (presentHost host) = true := by
  have hdefault : looksLikeHost defaultHost.toList = true := by decide
  unfold presentHost
  split
  · exact hdefault
  · exact h

theorem presentHost_ne (host : List Char) : presentHost host ≠ legacyHost.toList := by
  have hdefault : defaultHost.toList ≠ legacyHost.toList := by decide
  unfold presentHost
  split
  · exact hdefault
  · exact ‹_›

/-- A host and what follows it, completed: a single component lies in the official namespace of the
default registry. -/
def completed (host rest : List Char) : List Char × List Char :=
  let host := presentHost host
  if host = defaultHost.toList ∧ '/' ∉ rest then (host, officialNamespace.toList ++ rest)
  else (host, rest)

theorem completed_fst (host rest : List Char) : (completed host rest).1 = presentHost host := by
  unfold completed
  dsimp only
  split <;> rfl

/-- On the default registry there is a slash in what was completed. -/
theorem slash_mem_completed {host rest : List Char}
    (h : (completed host rest).1 = defaultHost.toList) : '/' ∈ (completed host rest).2 := by
  have hslash : '/' ∈ officialNamespace.toList := by decide
  rw [completed_fst] at h
  by_cases hrest : '/' ∈ rest <;> simp [completed, h, hrest, hslash]

/-- What stands before the first slash of a text is its host, or the text has none. -/
theorem splitHost_eq_completed (cs : List Char) :
    ((∀ first rest, cs = first ++ '/' :: rest → '/' ∉ first → looksLikeHost first = false) ∧
        splitHost cs = completed defaultHost.toList cs) ∨
      ∃ first rest, cs = first ++ '/' :: rest ∧ '/' ∉ first ∧ looksLikeHost first = true ∧
        splitHost cs = completed first rest := by
  cases hs : splitFirst '/' cs with
  | none =>
      have hslash := splitFirst_eq_none_iff.1 hs
      refine .inl ⟨fun first rest hcs _ => absurd (by simp [hcs]) hslash, ?_⟩
      simp [splitHost, completed, presentHost, hs]
  | some parts =>
      obtain ⟨first, rest⟩ := parts
      obtain ⟨hcs, hslash⟩ := eq_append_of_splitFirst hs
      by_cases hlooks : looksLikeHost first = true
      · refine .inr ⟨first, rest, hcs, hslash, hlooks, ?_⟩
        simp [splitHost, completed, presentHost, hs, hlooks]
      · refine .inl ⟨fun first' rest' hcs' hslash' => ?_, ?_⟩
        · rw [hcs', splitFirst_append_cons rest' hslash'] at hs
          cases hs
          simpa using hlooks
        · simp [splitHost, completed, presentHost, hs, hlooks]

/-- The host of a text is taken for a host and is not the older name of the default registry, whose
paths have two components or more. -/
theorem splitHost_spec (cs : List Char) :
    looksLikeHost (splitHost cs).1 = true ∧ (splitHost cs).1 ≠ legacyHost.toList ∧
      ((splitHost cs).1 = defaultHost.toList → '/' ∈ (splitHost cs).2) := by
  have hdefault : looksLikeHost defaultHost.toList = true := by decide
  obtain ⟨host, rest, hhost, heq⟩ : ∃ host rest, looksLikeHost host = true ∧
      splitHost cs = completed host rest := by
    rcases splitHost_eq_completed cs with ⟨-, heq⟩ | ⟨first, rest, -, -, hlooks, heq⟩
    · exact ⟨_, cs, hdefault, heq⟩
    · exact ⟨first, rest, hlooks, heq⟩
  refine ⟨?_, ?_, fun h => ?_⟩
  · rw [heq, completed_fst]
    exact looksLikeHost_presentHost hhost
  · rw [heq, completed_fst]
    exact presentHost_ne host
  · rw [heq] at h ⊢
    exact slash_mem_completed h

/-- Cutting off the tag keeps the slashes of a text in its path. -/
theorem slash_mem_splitTag {cs : List Char} (h : '/' ∈ cs) : '/' ∈ (splitTag cs).1 := by
  rw [splitTag]
  cases hs : splitLast ':' cs with
  | none => exact h
  | some parts =>
      obtain ⟨path, tag⟩ := parts
      dsimp only
      split
      · exact h
      · rename_i htag
        rw [(eq_append_of_splitLast hs).1] at h
        rcases List.mem_append.1 h with h | h
        · exact h
        · rcases List.mem_cons.1 h with h | h
          · exact absurd h (by decide)
          · exact absurd h htag

/-- Nothing is lost when the tag is cut off. -/
theorem append_splitTag (cs : List Char) :
    (splitTag cs).1 ++ (match (splitTag cs).2 with | some t => ':' :: t | none => []) = cs := by
  rw [splitTag]
  cases hs : splitLast ':' cs with
  | none => exact List.append_nil cs
  | some parts =>
      obtain ⟨path, tag⟩ := parts
      dsimp only
      split
      · exact List.append_nil cs
      · exact (eq_append_of_splitLast hs).1.symm

/-- What the parts of a text have to be that is accepted. -/
theorem ofParts_eq_ok {input : String} {host path : List Char} {tag : Option (List Char)}
    {digest : Option Digest} {r : Reference} (h : ofParts input host path tag digest = .ok r) :
    isPath path = true ∧ isHost host = true ∧ host.length + 1 + path.length ≤ maxNameLength ∧
      (∀ t, tag = some t → isTag t = true) ∧
      r = ⟨String.ofList host, String.ofList path, tag.map String.ofList, digest⟩ := by
  unfold ofParts at h
  split at h
  · cases h
  · split at h
    · cases h
    · rename_i hpath
      split at h
      · cases h
      · rename_i hhost
        split at h
        · cases h
        · rename_i hsize
          have hpath : isPath path = true := by simp_all
          have hhost : isHost host = true := by simpa using hhost
          have hsize : host.length + 1 + path.length ≤ maxNameLength := Nat.le_of_not_lt hsize
          cases tag with
          | none =>
              cases h
              exact ⟨hpath, hhost, hsize, by simp, rfl⟩
          | some tag =>
              cases htag : checkTag (String.ofList tag) with
              | error e => simp [htag] at h
              | ok u =>
                  simp only [htag, Except.ok.injEq] at h
                  rw [checkTag_eq_ok_iff, String.toList_ofList] at htag
                  refine ⟨hpath, hhost, hsize, fun t ht => ?_, h.symm⟩
                  cases ht
                  exact htag

/-- A text that is accepted is host and path, with tag and digest behind them. -/
theorem parse_eq_ok {input : String} {r : Reference} (h : parse input = .ok r) :
    ∃ (named : List Char) (digest : Option Digest),
      (splitHost input.toList).2 =
        named ++ (match digest with | some d => '@' :: d.text.toList | none => []) ∧
      (∀ d, digest = some d → Digest.parse d.text = .ok d) ∧
      ofParts input (splitHost input.toList).1 (splitTag named).1 (splitTag named).2 digest =
        .ok r := by
  rw [parse] at h
  split at h
  · cases h
  · dsimp only at h
    cases hs : splitFirst '@' (splitHost input.toList).2 with
    | none =>
        rw [hs] at h
        exact ⟨(splitHost input.toList).2, none, (List.append_nil _).symm, by simp, h⟩
    | some parts =>
        obtain ⟨named, text⟩ := parts
        rw [hs] at h
        dsimp only at h
        cases hd : Digest.parse (String.ofList text) with
        | error e => simp [hd] at h
        | ok digest =>
            rw [hd] at h
            refine ⟨named, some digest, ?_, fun d hd' => ?_, h⟩
            · simp [(eq_append_of_splitFirst hs).1, Digest.text_of_parse hd]
            · cases hd'
              rw [Digest.text_of_parse hd]
              exact hd

/-- A valid host and a valid path are ASCII, so their characters are counted. -/
theorem size_name {r : Reference} (hhost : isHost r.host.toList = true)
    (hpath : isPath r.path.toList = true) :
    Utf8.size r.name.toList = r.host.toList.length + 1 + r.path.toList.length := by
  have htext : r.name.toList = r.host.toList ++ '/' :: r.path.toList := by simp [name]
  have hascii : ∀ c ∈ r.name.toList, c.toNat < 128 := by
    intro c hc
    rw [htext] at hc
    rcases List.mem_append.1 hc with hc | hc
    · exact toNat_lt_of_isHostChar (isHostChar_of_isHost hhost c hc)
    · rcases List.mem_cons.1 hc with rfl | hc
      · decide
      · exact toNat_lt_of_isPathChar (isPathChar_of_isPath hpath c hc)
  rw [Utf8.size_eq_length_of_ascii hascii, htext, List.length_append, List.length_cons]
  omega

/-- What was read is well formed. -/
theorem WellFormed.of_parse {input : String} {r : Reference} (h : parse input = .ok r) :
    r.WellFormed := by
  obtain ⟨named, digest, hrest, hdigest, hparts⟩ := parse_eq_ok h
  obtain ⟨hlooks, hlegacy, hlong⟩ := splitHost_spec input.toList
  obtain ⟨hpath, hhost, hsize, htag, rfl⟩ := ofParts_eq_ok hparts
  constructor
  case validHost => simpa using hhost
  case recognisedHost => simpa using hlooks
  case currentHost =>
    intro heq
    exact hlegacy (by rw [← heq, String.toList_ofList])
  case validPath => simpa using hpath
  case longPath =>
    intro heq
    rw [String.toList_ofList]
    have hslash := hlong (by rw [← heq, String.toList_ofList])
    rw [hrest, List.mem_append] at hslash
    refine slash_mem_splitTag (hslash.resolve_right ?_)
    cases digest with
    | none => simp
    | some d => simp [Digest.slash_notMem_of_parse (hdigest d rfl)]
  case size_name_le =>
    rw [size_name (by simpa using hhost) (by simpa using hpath)]
    simpa using hsize
  case validTag =>
    intro tag heq
    obtain ⟨t, ht, rfl⟩ := Option.map_eq_some_iff.1 heq
    simpa using htag t ht
  case validDigest => exact hdigest

namespace WellFormed

variable {r : Reference}

theorem repository (h : r.WellFormed) : r.repository.WellFormed :=
  { h with
    validTag := by simp [Reference.repository]
    validDigest := by simp [Reference.repository] }

theorem withTag {r' : Reference} {tag : String} (h : r.WellFormed) (htag : r.withTag tag = .ok r') :
    r'.WellFormed := by
  obtain ⟨hvalid, rfl⟩ := withTag_eq_ok_iff.1 htag
  refine { h.repository with validTag := fun t ht => ?_ }
  cases ht
  exact hvalid

theorem withDigest {input : String} {digest : Digest} (h : r.WellFormed)
    (hdigest : Digest.parse input = .ok digest) : (r.withDigest digest).WellFormed := by
  refine { h.repository with validDigest := fun d hd => ?_ }
  cases hd
  rw [Digest.text_of_parse hdigest]
  exact hdigest

end WellFormed

/-- The steps preserve what reading established. -/
theorem Derived.wellFormed {r : Reference} (h : Derived r) : r.WellFormed := by
  induction h with
  | parsed h => exact .of_parse h
  | repository h ih => exact ih.repository
  | withTag h htag ih => exact ih.withTag htag
  | withDigest h hdigest ih => exact ih.withDigest hdigest

/-! ## The full name is cut where it was joined -/

/-- Path and tag as they stand in the full name. -/
def tagged (r : Reference) : List Char :=
  r.path.toList ++ (match r.tag with | some t => ':' :: t.toList | none => [])

/-- What stands behind the host and its slash in the full name. -/
def behindHost (r : Reference) : List Char :=
  r.tagged ++ (match r.digest with | some d => '@' :: d.text.toList | none => [])

/-- Tag and digest as they stand in the full name. -/
def suffix (r : Reference) : List Char :=
  (match r.tag with | some t => ':' :: t.toList | none => []) ++
    (match r.digest with | some d => '@' :: d.text.toList | none => [])

theorem behindHost_eq (r : Reference) : r.behindHost = r.path.toList ++ r.suffix := by
  unfold behindHost tagged suffix
  cases r.tag <;> cases r.digest <;> simp

theorem toList_text (r : Reference) : r.text.toList = r.host.toList ++ '/' :: r.behindHost := by
  unfold text behindHost tagged name
  cases r.tag <;> cases r.digest <;> simp

theorem mem_behindHost_of_mem_path {r : Reference} {c : Char} (h : c ∈ r.path.toList) :
    c ∈ r.behindHost :=
  List.mem_append_left _ (List.mem_append_left _ h)

namespace WellFormed

variable {r : Reference}

theorem splitHost_text (h : r.WellFormed) :
    splitHost r.text.toList = (r.host.toList, r.behindHost) := by
  have hfirst : splitFirst '/' r.text.toList = some (r.host.toList, r.behindHost) := by
    rw [toList_text]
    exact splitFirst_append_cons _ (slash_notMem_of_isHost h.validHost)
  have hcurrent : r.host.toList ≠ legacyHost.toList := fun heq =>
    h.currentHost (String.toList_inj.1 heq)
  have hlong : ¬(r.host.toList = defaultHost.toList ∧ '/' ∉ r.behindHost) := by
    rintro ⟨heq, hslash⟩
    exact hslash (mem_behindHost_of_mem_path (h.longPath (String.toList_inj.1 heq)))
  simp only [splitHost, hfirst, h.recognisedHost, if_true, if_neg hcurrent, if_neg hlong]

theorem length_le (h : r.WellFormed) :
    r.host.toList.length + 1 + r.path.toList.length ≤ maxNameLength := by
  have hsize := Nat.le_trans (Utf8.length_le_size r.name.toList) h.size_name_le
  simp only [name, String.toList_append, List.length_append] at hsize
  exact hsize

theorem ofParts_eq (h : r.WellFormed) (input : String) :
    ofParts input r.host.toList r.path.toList (r.tag.map String.toList) r.digest = .ok r := by
  have hlength : ¬r.host.toList.length + 1 + r.path.toList.length > maxNameLength :=
    Nat.not_lt.2 h.length_le
  have hempty : (r.path.toList.isEmpty || !isPath r.path.toList) = false := by
    simp [h.validPath, ne_nil_of_isPath h.validPath]
  unfold ofParts
  simp only [any_isUpper_of_isPath h.validPath, hempty, h.validHost, Bool.not_true, hlength,
    if_false, Bool.false_eq_true]
  obtain ⟨host, path, tag, digest⟩ := r
  cases tag with
  | none => simp
  | some t =>
      have hcheck : checkTag t = .ok () := (checkTag_eq_ok_iff t).2 (h.validTag t rfl)
      simp [hcheck]

end WellFormed

/-- The characters of tag and digest with what stands before them. -/
def isSuffixChar (c : Char) : Bool := isTagChar c || Digest.isDigestChar c || c == '@'

theorem isSuffixChar_of_mem_suffix {r : Reference} (h : r.WellFormed) :
    ∀ c ∈ r.suffix, isSuffixChar c = true := by
  have htag : ∀ t, r.tag = some t → ∀ c ∈ t.toList, isSuffixChar c = true := fun t ht c hc => by
    simp [isSuffixChar, isTagChar_of_isTag (h.validTag t ht) c hc]
  have hdigest : ∀ d, r.digest = some d → ∀ c ∈ d.text.toList, isSuffixChar c = true :=
    fun d hd c hc => by
      simp [isSuffixChar, Digest.isDigestChar_of_parse (h.validDigest d hd) c hc]
  have hmark : isSuffixChar ':' = true ∧ isSuffixChar '@' = true := by decide
  intro c hc
  unfold suffix at hc
  rcases List.mem_append.1 hc with hc | hc
  · cases ht : r.tag with
    | none => simp [ht] at hc
    | some t =>
        rw [ht] at hc
        rcases List.mem_cons.1 hc with rfl | hc
        · exact hmark.1
        · exact htag t ht c hc
  · cases hd : r.digest with
    | none => simp [hd] at hc
    | some d =>
        rw [hd] at hc
        rcases List.mem_cons.1 hc with rfl | hc
        · exact hmark.2
        · exact hdigest d hd c hc

theorem slash_notMem_suffix {r : Reference} (h : r.WellFormed) : '/' ∉ r.suffix :=
  fun hc => absurd (isSuffixChar_of_mem_suffix h _ hc) (by decide)

theorem isHex64_of_mem {c : Char} {cs : List Char} (hc : isLowerHex c = false) (h : c ∈ cs) :
    isHex64 cs = false := by
  have hall : cs.all isLowerHex = false := List.all_eq_false.2 ⟨c, h, by simp [hc]⟩
  rw [isHex64, hall, Bool.and_false]

theorem slash_mem_text (r : Reference) : '/' ∈ r.text.toList := by simp [toList_text]

/-- A text that ends in the tag and the digest of a well-formed reference is cut before them, if
there is no at sign before and nothing that is taken for a tag. -/
theorem WellFormed.parse_eq_ofParts {r : Reference} (h : r.WellFormed) {input : String}
    {host path : List Char} (hhex : isHex64 input.toList = false)
    (hhost : splitHost input.toList = (host, path ++ r.suffix)) (hat : '@' ∉ path)
    (huntagged : splitTag path = (path, none)) :
    parse input = ofParts input host path (r.tag.map String.toList) r.digest := by
  let named := path ++ (match r.tag with | some t => ':' :: t.toList | none => [])
  have htag : splitTag named = (path, r.tag.map String.toList) := by
    simp only [named]
    cases ht : r.tag with
    | none => simpa using huntagged
    | some t =>
        have hvalid := h.validTag t ht
        simp [splitTag, splitLast_append_cons _ (colon_notMem_of_isTag hvalid),
          slash_notMem_of_isTag hvalid]
  have hnamed : '@' ∉ named := by
    simp only [named]
    cases ht : r.tag with
    | none => simpa using hat
    | some t => simp [hat, at_notMem_of_isTag (h.validTag t ht)]
  have hrest : path ++ r.suffix =
      named ++ (match r.digest with | some d => '@' :: d.text.toList | none => []) := by
    rw [suffix, List.append_assoc]
  rw [parse, hhex, hhost, hrest]
  cases hdigest : r.digest with
  | none => simp [splitFirst_eq_none_iff.2 hnamed, htag]
  | some d => simp [splitFirst_append_cons _ hnamed, h.validDigest d hdigest, htag]

theorem splitTag_of_colon_notMem {cs : List Char} (h : ':' ∉ cs) : splitTag cs = (cs, none) := by
  rw [splitTag, splitLast_eq_none_iff.2 h]

/-- The full name of a well-formed reference is read as the reference. -/
theorem parse_text {r : Reference} (h : r.WellFormed) : parse r.text = .ok r := by
  have hhost := h.splitHost_text
  rw [behindHost_eq] at hhost
  rw [h.parse_eq_ofParts (isHex64_of_mem (by decide) (slash_mem_text r)) hhost
    (at_notMem_of_isPath h.validPath) (splitTag_of_colon_notMem (colon_notMem_of_isPath h.validPath)),
    h.ofParts_eq]

theorem host_of_parse {input : String} {r : Reference} (h : parse input = .ok r) :
    r.host = String.ofList (splitHost input.toList).1 := by
  obtain ⟨named, digest, -, -, hparts⟩ := parse_eq_ok h
  obtain ⟨-, -, -, -, rfl⟩ := ofParts_eq_ok hparts
  rfl

/-- What was read is written as the text, after the completion of a short name. -/
theorem text_of_parse {input : String} {r : Reference} (h : parse input = .ok r) :
    r.text.toList = (splitHost input.toList).1 ++ '/' :: (splitHost input.toList).2 := by
  obtain ⟨named, digest, hrest, -, hparts⟩ := parse_eq_ok h
  obtain ⟨-, -, -, -, rfl⟩ := ofParts_eq_ok hparts
  have htag : (match (splitTag named).2.map String.ofList with
        | some t => ':' :: t.toList
        | none => []) =
      (match (splitTag named).2 with | some t => ':' :: t | none => []) := by
    cases (splitTag named).2 <;> simp
  rw [hrest, toList_text, behindHost_eq, suffix]
  simp only [String.toList_ofList, htag]
  rw [← List.append_assoc, append_splitTag]

/-- A text that is read is cut behind its host, and completed, where its full name is. -/
theorem splitHost_of_parse {input : String} {r : Reference} (h : parse input = .ok r) :
    splitHost input.toList = (r.host.toList, r.path.toList ++ r.suffix) := by
  have htext := text_of_parse h
  have hhost : r.host.toList = (splitHost input.toList).1 := by
    rw [host_of_parse h, String.toList_ofList]
  rw [toList_text, behindHost_eq, hhost, List.append_cancel_left_eq, List.cons.injEq] at htext
  exact Prod.ext hhost.symm htext.2.symm

theorem wellFormed_iff_derived {r : Reference} : r.WellFormed ↔ Derived r :=
  ⟨fun h => .parsed (parse_text h), Derived.wellFormed⟩

/-- A reference that comes from reading a text and from any sequence of steps is well formed, its
full name is read as the reference again, and no other such reference has that full name. -/
theorem Derived.round_trip {r : Reference} (h : Derived r) :
    parse r.text = .ok r ∧ r.WellFormed ∧
      ∀ r' : Reference, Derived r' → r'.text = r.text → r' = r := by
  have hread : parse r.text = .ok r := parse_text h.wellFormed
  refine ⟨hread, h.wellFormed, fun r' h' htext => ?_⟩
  have hread' : parse r'.text = .ok r' := parse_text h'.wellFormed
  rw [htext, hread] at hread'
  exact (Except.ok.inj hread').symm

theorem eq_ok_of_toOption {ε α : Type} {result : Except ε α} {a : α}
    (h : result.toOption = some a) : result = .ok a := by
  cases result with
  | error e => cases h
  | ok b => exact congrArg Except.ok (Option.some.inj h)

/-- The older name of the default registry, a short path and a tag, and then a digest. -/
theorem Derived.round_trip_withDigest :
    let digest : Digest := ⟨"sha256", String.ofList (List.replicate 64 'a')⟩
    let r : Reference := ⟨"docker.io", "library/alpine", none, some digest⟩
    (∃ tagged, parse "index.docker.io/alpine:3.19" = .ok tagged ∧ tagged.withDigest digest = r) ∧
      parse r.text = .ok r := by
  intro digest r
  have hparse : parse "index.docker.io/alpine:3.19" =
      .ok ⟨"docker.io", "library/alpine", some "3.19", none⟩ :=
    eq_ok_of_toOption (by decide +kernel)
  have hdigest : Digest.parse digest.text = .ok digest := eq_ok_of_toOption (by decide +kernel)
  have hderived : Derived r := .withDigest (.parsed hparse) hdigest
  exact ⟨⟨_, hparse, rfl⟩, hderived.round_trip.1⟩

end ImageSync.Reference
