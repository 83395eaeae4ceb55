import ImageSync.Proofs.Destination.Renamed

/-!
# Copies keep what identifies an image

Tag and digest of an image stand at the end of its full name, and so do they in the text that its
copy is read from, whatever the root is that stands before. A text is cut behind its first component
at most, so the components at its end are those of the path that is read.

## Main definitions

* `Reference.lastName r`: the last component of the path.
* `Reference.renamed host front r`: that component with tag and digest, behind a host and something
  else.

## Main statements

* `Reference.exists_splitOn_of_parse`: the components of a text are those of the path that is read,
  apart from the first.
* `Reference.lastName_eq_and_suffix_eq`: a last component is read with the tag and digest behind it.
* `Destination.prepare_identity`: what a copy keeps, and which unscoped copies there are.
-/

namespace ImageSync.Text

variable {α : Type}

theorem concat_suffix_concat_iff {a b : List α} {x y : α} :
    a ++ [x] <:+ b ++ [y] ↔ a <:+ b ∧ x = y := by
  have hlength : [x].length = [y].length := rfl
  rw [List.suffix_append_inj_of_length_eq hlength, List.singleton_inj]

end ImageSync.Text

namespace ImageSync.Reference

open Text

variable {r s : Reference}

/-! ## The last component -/

/-- The last component of the path. -/
def lastName (r : Reference) : List Char :=
  (splitOn '/' r.path.toList).getLast (splitOn_ne_nil '/' r.path.toList)

theorem getLast?_splitOn_path (r : Reference) :
    (splitOn '/' r.path.toList).getLast? = some r.lastName :=
  List.getLast?_eq_some_getLast _

theorem isComponent_lastName (h : r.WellFormed) : isComponent r.lastName = true :=
  List.all_eq_true.1 h.validPath _ (List.getLast_mem _)

theorem slash_notMem_lastName (r : Reference) : '/' ∉ r.lastName :=
  notMem_of_mem_splitOn (List.getLast_mem (splitOn_ne_nil '/' r.path.toList))

/-- Tag and digest are part of the last component of the full name. -/
theorem exists_splitOn_append_suffix (h : r.WellFormed) (front : List Char) :
    ∃ inner, splitOn '/' r.path.toList = inner ++ [r.lastName] ∧
      splitOn '/' (r.path.toList ++ r.suffix) = inner ++ [r.lastName ++ r.suffix] ∧
      splitOn '/' (front ++ '/' :: (r.path.toList ++ r.suffix)) =
        splitOn '/' front ++ inner ++ [r.lastName ++ r.suffix] := by
  obtain ⟨inner, last, hpath, hall⟩ :=
    splitOn_append_of_notMem r.path.toList (slash_notMem_suffix h)
  have hlast : r.lastName = last := by simp [lastName, hpath]
  refine ⟨inner, by rw [hpath, hlast], by rw [hall, hlast], ?_⟩
  rw [splitOn_append_cons, hall, hlast, List.append_assoc]

theorem lastComponent_text_eq (h : r.WellFormed) :
    Destination.lastComponent r.text.toList = r.lastName ++ r.suffix := by
  obtain ⟨inner, -, -, htext⟩ := exists_splitOn_append_suffix h r.host.toList
  have hlast := lastComponent_text h
  rw [toList_text, behindHost_eq, htext, List.getLast?_concat] at hlast
  rw [toList_text, behindHost_eq]
  exact (Option.some.inj hlast).symm

/-! ## Tag and digest are read back -/

/-- What stands behind a path says which tag and digest there are. -/
theorem tag_eq_and_digest_eq (hr : r.WellFormed) (hs : s.WellFormed) (h : r.suffix = s.suffix) :
    r.tag = s.tag ∧ r.digest = s.digest := by
  let r' : Reference := { r with tag := s.tag, digest := s.digest }
  have hr' : r'.WellFormed :=
    { hr with
      validTag := hs.validTag
      validDigest := hs.validDigest }
  have htext : r'.text = r.text := by
    rw [← String.toList_inj, toList_text, toList_text, behindHost_eq, behindHost_eq, h]
    rfl
  have hread := parse_text hr'
  rw [htext, parse_text hr, Except.ok.injEq] at hread
  rw [hread]
  exact ⟨rfl, rfl⟩

theorem suffix_eq_nil_or_isMarked (r : Reference) :
    r.suffix = [] ∨ ∃ c cs, r.suffix = c :: cs ∧ (c = ':' ∨ c = '@') := by
  unfold suffix
  cases r.tag with
  | some t => exact .inr ⟨':', _, rfl, .inl rfl⟩
  | none =>
      cases r.digest with
      | some d => exact .inr ⟨'@', _, rfl, .inr rfl⟩
      | none => exact .inl rfl

/-- Nothing of a tag or digest can belong to the component before it. -/
theorem eq_nil_of_append_suffix {mid : List Char} (hmid : ¬IsMarked mid)
    (h : r.suffix = mid ++ s.suffix) : mid = [] := by
  cases mid with
  | nil => rfl
  | cons c mid =>
      rcases suffix_eq_nil_or_isMarked r with hnil | ⟨d, rest, hcons, hd⟩
      · rw [hnil] at h
        cases h
      · rw [hcons, List.cons_append, List.cons.injEq] at h
        obtain ⟨rfl, -⟩ := h
        exact absurd (hd.imp (by rintro rfl; simp) (by rintro rfl; simp)) hmid

/-- A component is read back from what it is with tag and digest, and so are these. -/
theorem lastName_eq_and_suffix_eq (hr : r.WellFormed) (hs : s.WellFormed)
    (h : r.lastName ++ r.suffix = s.lastName ++ s.suffix) :
    r.lastName = s.lastName ∧ r.suffix = s.suffix := by
  have hunmarked : ∀ {q : Reference} {a mid : List Char}, q.WellFormed → q.lastName = a ++ mid →
      ¬IsMarked mid := fun hq hmid hmarked =>
    not_isMarked_of_isComponent (isComponent_lastName hq)
      (hmid ▸ hmarked.imp (List.mem_append_right _) (List.mem_append_right _))
  rcases List.append_eq_append_iff.1 h with ⟨mid, hlast, hsuffix⟩ | ⟨mid, hlast, hsuffix⟩
  · obtain rfl := eq_nil_of_append_suffix (hunmarked hs hlast) hsuffix
    exact ⟨by simpa using hlast.symm, by simpa using hsuffix⟩
  · obtain rfl := eq_nil_of_append_suffix (hunmarked hr hlast) hsuffix
    exact ⟨by simpa using hlast, by simpa using hsuffix.symm⟩

/-! ## The components of a text that is read -/

theorem splitOn_suffix_completed (host rest : List Char) :
    splitOn '/' rest <:+ splitOn '/' (completed host rest).2 := by
  have hnamespace : officialNamespace.toList ++ rest = "library".toList ++ '/' :: rest := rfl
  unfold completed
  dsimp only
  split
  · rw [hnamespace, splitOn_append_cons]
    exact List.suffix_append _ _
  · exact List.suffix_refl _

/-- At most the first component of a text is taken for a host. The others end the path that is
read, with its tag and digest. -/
theorem exists_splitOn_of_parse {input : String} (h : parse input = .ok r) :
    ∃ front rest, splitOn '/' input.toList = front ++ rest ∧ front.length ≤ 1 ∧ rest ≠ [] ∧
      rest <:+ splitOn '/' (r.path.toList ++ r.suffix) := by
  have hcut := splitHost_of_parse h
  rcases splitHost_eq_completed input.toList with ⟨-, heq⟩ | ⟨first, rest, hcs, hslash, -, heq⟩
  · refine ⟨[], _, rfl, by simp, splitOn_ne_nil '/' input.toList, ?_⟩
    have hsuffix := splitOn_suffix_completed defaultHost.toList input.toList
    rwa [← heq, hcut] at hsuffix
  · refine ⟨[first], splitOn '/' rest, ?_, by simp, splitOn_ne_nil '/' rest, ?_⟩
    · rw [hcs, splitOn_append_cons, splitOn_of_notMem hslash]
    · have hsuffix := splitOn_suffix_completed first rest
      rwa [← heq, hcut] at hsuffix

/-- A text that ends in a component with tag and digest is read with that component, that tag and
that digest. -/
theorem eq_of_getLast?_splitOn {input : String} {d : Reference} (hr : r.WellFormed)
    (hparse : parse input = .ok d)
    (hlast : (splitOn '/' input.toList).getLast? = some (r.lastName ++ r.suffix)) :
    d.lastName = r.lastName ∧ d.suffix = r.suffix := by
  have hd := WellFormed.of_parse hparse
  obtain ⟨front, rest, hsplit, -, hne, hsuffix⟩ := exists_splitOn_of_parse hparse
  obtain ⟨inner, -, hpath, -⟩ := exists_splitOn_append_suffix hd []
  obtain ⟨init, last, rfl⟩ := (List.eq_nil_or_concat rest).resolve_left hne
  rw [hsplit, List.concat_eq_append, ← List.append_assoc, List.getLast?_concat] at hlast
  rw [hpath, List.concat_eq_append, concat_suffix_concat_iff] at hsuffix
  refine lastName_eq_and_suffix_eq hd hr ?_
  rw [← Option.some.inj hlast, hsuffix.2]

/-- A text that ends in a slash and a full name is read with host and path of that name at the end
of its path. -/
theorem splitOn_name_suffix {input : String} {d : Reference} {front : List Char} (hr : r.WellFormed)
    (hparse : parse input = .ok d) (hinput : input.toList = front ++ '/' :: r.text.toList) :
    splitOn '/' r.name.toList <:+ splitOn '/' d.path.toList := by
  have hname : r.name.toList = r.host.toList ++ '/' :: r.path.toList := by simp [name]
  obtain ⟨inner, hinner, -, htext⟩ := exists_splitOn_append_suffix hr r.host.toList
  obtain ⟨inner', hinner', hpath', -⟩ := exists_splitOn_append_suffix (.of_parse hparse) []
  obtain ⟨before, rest, hsplit, hlength, -, hsuffix⟩ := exists_splitOn_of_parse hparse
  rw [hinput, splitOn_append_cons] at hsplit
  -- the host that is cut off stands before the slash
  have hrest : splitOn '/' r.text.toList <:+ rest := by
    have hright : rest <:+ splitOn '/' front ++ splitOn '/' r.text.toList :=
      hsplit ▸ List.suffix_append before rest
    refine List.suffix_of_suffix_length_le (List.suffix_append _ _) hright ?_
    have hfront := List.length_pos_iff.2 (splitOn_ne_nil '/' front)
    have hlengths := congrArg List.length hsplit
    rw [List.length_append, List.length_append] at hlengths
    omega
  have hboth := hrest.trans hsuffix
  rw [toList_text, behindHost_eq, htext, hpath', concat_suffix_concat_iff] at hboth
  obtain ⟨hinside, hlast⟩ := hboth
  rw [hname, splitOn_append_cons, hinner, hinner', ← List.append_assoc,
    concat_suffix_concat_iff]
  exact ⟨hinside, (lastName_eq_and_suffix_eq hr (.of_parse hparse) hlast).1⟩

/-! ## A last component behind a host -/

section Renamed

variable {host front : List Char}

/-- The path of a last component behind something else, completed. -/
def renamedPath (host front : List Char) (r : Reference) : List Char :=
  (completed host (front ++ r.lastName)).2

/-- What the last component of a reference becomes behind a host and something else. -/
def renamed (host front : List Char) (r : Reference) : Reference :=
  moved host (renamedPath host front r) r

theorem isPath_append_lastName (hfront : IsFront front) (h : r.WellFormed) :
    isPath (front ++ r.lastName) = true := by
  have hlast : isPath r.lastName = true := by
    rw [isPath_of_slash_notMem (slash_notMem_lastName r), isComponent_lastName h]
  rcases hfront with rfl | ⟨path, hpath, rfl⟩
  · exact hlast
  · rw [List.append_assoc, List.singleton_append, isPath_append_slash, hpath, hlast, Bool.true_and]

theorem isPath_completed {rest : List Char} (h : isPath rest = true) :
    isPath (completed host rest).2 = true := by
  have hnamespace : officialNamespace.toList ++ rest = "library".toList ++ '/' :: rest := rfl
  have hlibrary : isPath "library".toList = true := by decide
  unfold completed
  dsimp only
  split
  · rw [hnamespace, isPath_append_slash, hlibrary, h, Bool.true_and]
  · exact h

theorem completed_append {rest last : List Char} (h : '/' ∉ last) :
    completed host (rest ++ last) = ((completed host rest).1, (completed host rest).2 ++ last) := by
  simp only [completed, List.mem_append, h, or_false]
  split <;> simp

theorem splitHost_of_looksLikeHost {rest : List Char} (hslash : '/' ∉ host)
    (hlooks : looksLikeHost host = true) :
    splitHost (host ++ '/' :: rest) = completed host rest := by
  simp [splitHost, splitFirst_append_cons rest hslash, hlooks, completed, presentHost]

/-- How a last component with its tag and digest is read behind a host and something else. Only its
length can make it an error. -/
theorem parse_renamed (hhost : isHost host = true) (hlooks : looksLikeHost host = true)
    (hfront : IsFront front) (h : r.WellFormed) {input : String}
    (hinput : input.toList = host ++ '/' :: (front ++ (r.lastName ++ r.suffix))) :
    parse input =
      if maxNameLength < Utf8.size (renamed host front r).name.toList then .error (.tooLong input)
      else .ok (renamed host front r) := by
  have hsplit :
      splitHost input.toList = (presentHost host, renamedPath host front r ++ r.suffix) := by
    rw [hinput, splitHost_of_looksLikeHost (slash_notMem_of_isHost hhost) hlooks,
      ← List.append_assoc, completed_append (slash_notMem_suffix h), completed_fst, renamedPath]
  have hpath : isPath (renamedPath host front r) = true :=
    isPath_completed (isPath_append_lastName hfront h)
  have hlong : presentHost host = defaultHost.toList → '/' ∈ renamedPath host front r := fun heq =>
    slash_mem_completed (by rw [completed_fst, heq])
  rw [h.parse_eq_ofParts (isHex64_of_mem (c := '/') (by decide) (by simp [hinput]))
    hsplit (at_notMem_of_isPath hpath)
    (splitTag_of_colon_notMem (colon_notMem_of_isPath hpath)),
    ofParts_moved hhost hlooks hpath hlong h]
  rfl

end Renamed

end ImageSync.Reference

namespace ImageSync.Destination

open Text

variable {r : Reference}

theorem nameOf_reference (h : r.WellFormed) (base : Option Path) (isScoped : Bool) :
    nameOf (.inRegistry r) base isScoped =
      if isScoped then r.text else String.ofList (r.lastName ++ r.suffix) := by
  rw [nameOf, Reference.lastComponent_text_eq h]

/-- The name of a copy behind its root. -/
theorem toList_join_nameOf (root : String) (h : r.WellFormed) (base : Option Path)
    (isScoped : Bool) :
    (join root (nameOf (.inRegistry r) base isScoped)).toList =
      stem root.toList ++ (nameOf (.inRegistry r) base isScoped).toList := by
  cases isScoped with
  | true => exact toList_join_text root h
  | false =>
      have hcomponent := Reference.isComponent_lastName h
      have hne := (Reference.ne_of_isComponent_append hcomponent r.suffix).1
      have hhead : (r.lastName ++ r.suffix).head? ≠ some '/' := by
        intro hhead
        have hmem := List.mem_of_head? hhead
        rw [List.mem_append] at hmem
        exact hmem.elim (Reference.slash_notMem_lastName r) (Reference.slash_notMem_suffix h)
      rw [nameOf_reference h, join, String.toList_ofList, if_neg Bool.false_ne_true,
        String.toList_ofList, joinChars_eq _ hne hhead]

theorem getLast?_splitOn_nameOf (h : r.WellFormed) (base : Option Path) (isScoped : Bool) :
    (splitOn '/' (nameOf (.inRegistry r) base isScoped).toList).getLast? =
      some (r.lastName ++ r.suffix) := by
  cases isScoped with
  | true => exact (Reference.lastComponent_text h).trans (by rw [Reference.lastComponent_text_eq h])
  | false =>
      have hslash : '/' ∉ r.lastName ++ r.suffix := by
        simp [Reference.slash_notMem_lastName r, Reference.slash_notMem_suffix h]
      rw [nameOf_reference h, if_neg Bool.false_ne_true, String.toList_ofList,
        splitOn_of_notMem hslash]
      rfl

theorem exists_splitOn_stem_append (root cs : List Char) :
    ∃ front, splitOn '/' (stem root ++ cs) = front ++ splitOn '/' cs := by
  unfold stem
  split
  · exact ⟨[], rfl⟩
  · rw [List.append_assoc, List.singleton_append, splitOn_append_cons]
    exact ⟨_, rfl⟩

/-- The last component of the place of a copy is that of its source, with tag and digest. -/
theorem getLast?_splitOn_join (root : String) (h : r.WellFormed) (base : Option Path)
    (isScoped : Bool) :
    (splitOn '/' (join root (nameOf (.inRegistry r) base isScoped)).toList).getLast? =
      some (r.lastName ++ r.suffix) := by
  obtain ⟨front, hfront⟩ :=
    exists_splitOn_stem_append root.toList (nameOf (.inRegistry r) base isScoped).toList
  rw [toList_join_nameOf root h, hfront, List.getLast?_append, getLast?_splitOn_nameOf h]
  rfl

/-- A copy in a registry has the tag and the digest of its source, and the last component of its
path is that of the source. A scoped one keeps host and path of the source at the end of its path,
if there is a root. Below a registry, or a repository in one, every unscoped copy succeeds whose
name is not too long. -/
theorem prepare_identity (root : String) (hr : Reference.Derived r) (base : Option Path) :
    (∀ (isScoped : Bool) (t t' : FileTree) (image : Image),
      prepare t (join root (nameOf (.inRegistry r) base isScoped)) .registry = (.ok image, t') →
      ∃ d, image = .inRegistry d ∧ d.tag = r.tag ∧ d.digest = r.digest ∧
        (splitOn '/' d.path.toList).getLast? = (splitOn '/' r.path.toList).getLast? ∧
        (isScoped = true → root ≠ "" →
          splitOn '/' r.name.toList <:+ splitOn '/' d.path.toList)) ∧
      ∀ (host front : List Char), IsRegistryRoot root host front → ∀ t : FileTree,
        let location := join root (nameOf (.inRegistry r) base false)
        let copy := Reference.renamed host front r
        prepare t location .registry =
          (if Reference.maxNameLength < Utf8.size copy.name.toList then
            .error (.reference (.tooLong location)) else .ok (.inRegistry copy), t) := by
  have h := hr.wellFormed
  refine ⟨?kept, ?found⟩
  case kept =>
    intro isScoped t t' image hprepare
    obtain ⟨d, hparse, rfl⟩ := of_prepare_registry hprepare
    have hd := Reference.WellFormed.of_parse hparse
    obtain ⟨hname, hsuffix⟩ :=
      Reference.eq_of_getLast?_splitOn h hparse (getLast?_splitOn_join root h base isScoped)
    obtain ⟨htag, hdigest⟩ := Reference.tag_eq_and_digest_eq hd h hsuffix
    refine ⟨d, rfl, htag, hdigest, ?_, ?_⟩
    · rw [Reference.getLast?_splitOn_path, Reference.getLast?_splitOn_path, hname]
    · rintro rfl hroot
      have hne : root.toList.isEmpty = false := by simpa using hroot
      have hinput := toList_join_nameOf root h base true
      rw [stem, hne, if_neg Bool.false_ne_true, List.append_assoc] at hinput
      exact Reference.splitOn_name_suffix h hparse hinput
  case found =>
    intro host front hroot t location copy
    have hinput : location.toList = host ++ '/' :: (front ++ (r.lastName ++ r.suffix)) := by
      rw [toList_join_nameOf root h, hroot.stem_eq, nameOf_reference h]
      simp
    rw [prepare, Reference.parse_renamed hroot.isHost hroot.looksLikeHost hroot.isFront h hinput]
    by_cases hsize : Reference.maxNameLength < Utf8.size copy.name.toList
    · simp only [copy, if_pos hsize]
    · simp only [copy, if_neg hsize]

/-- An image with a tag and a digest below a repository on a registry with a port. -/
theorem prepare_identity_port :
    let root := "mirror.io:5000/backup"
    let digest : Digest := ⟨"sha256", String.ofList (List.replicate 64 'a')⟩
    let r : Reference := ⟨"quay.io", "team/app", some "v1", some digest⟩
    let t : FileTree := .empty
    let whole : Reference :=
      ⟨"mirror.io:5000", "backup/quay.io/team/app", some "v1", some digest⟩
    Reference.Derived r ∧
      prepare t (join root (nameOf (.inRegistry r) none true)) .registry =
        (.ok (.inRegistry whole), t) ∧
      (whole.tag = r.tag ∧ whole.digest = r.digest ∧
        splitOn '/' r.name.toList <:+ splitOn '/' whole.path.toList) ∧
      prepare t (join root (nameOf (.inRegistry r) none false)) .registry =
        (.ok (.inRegistry ⟨"mirror.io:5000", "backup/app", some "v1", some digest⟩), t) := by
  intro root digest r t whole
  have hparse : Reference.parse r.text = .ok r := Reference.eq_ok_of_toOption (by decide +kernel)
  have hr : Reference.Derived r := .parsed hparse
  have hroot : IsRegistryRoot root "mirror.io:5000".toList ("backup".toList ++ ['/']) := by
    have hjoined : String.ofList ("mirror.io:5000".toList ++ '/' :: "backup".toList) = root := by
      decide
    rw [← hjoined]
    exact .repository (by decide +kernel) (by decide) (by decide +kernel)
  have hcopy : prepare t (join root (nameOf (.inRegistry r) none true)) .registry =
      (.ok (.inRegistry whole), t) :=
    Prod.ext (Reference.eq_ok_of_toOption (by decide +kernel)) (prepare_registry_tree t _)
  obtain ⟨hkept, hfound⟩ := prepare_identity root hr none
  obtain ⟨d, hd, htag, hdigest, -, hname⟩ := hkept true t t _ hcopy
  obtain rfl := Image.inRegistry.inj hd
  refine ⟨hr, hcopy, ⟨htag, hdigest, hname rfl (by decide)⟩, ?_⟩
  have hname : Reference.renamed "mirror.io:5000".toList ("backup".toList ++ ['/']) r =
      ⟨"mirror.io:5000", "backup/app", some "v1", some digest⟩ := by decide +kernel
  have hshort : ¬Reference.maxNameLength <
      Utf8.size (Reference.name ⟨"mirror.io:5000", "backup/app", none, none⟩).toList := by
    decide +kernel
  have hunscoped := hfound _ _ hroot t
  rw [hname] at hunscoped
  exact hunscoped.trans (congrArg (·, t) (if_neg hshort))

end ImageSync.Destination
