import ImageSync.Proofs.Reference.Nested
import ImageSync.Proofs.Reference.Shapes

/-!
# The grammar of references

A text is a reference exactly if it can be spelled: it is a path, perhaps with a host before it and
with a tag and a digest behind it. There is one way to spell it, and what is read has the parts of
the spelling, with short names completed.

## Main definitions

* `Spelling`, `Spelling.text`: the parts of a reference as they are written.
* `Spelling.reference`: the reference that is meant.
* `Spelling.Spells p s`: whether a text is spelled so.

## Main statements

* `Spelling.Spells.parse_eq`: a text that is spelled so is read as the reference that is meant.
* `Spelling.exists_of_parse`: a text that is read is spelled.
* `Reference.parse_spelled`: both, and that there is one way to spell a text.
-/

namespace ImageSync

open Text
open Reference (HostShape PathShape TagShape DigestShape completed isHex64 isLowerHex looksLikeHost
  splitHost splitHost_eq_completed)

/-- The parts of a reference as they are written. -/
structure Spelling where
  host : Option String
  path : String
  tag : Option String
  digest : Option Digest
deriving DecidableEq, Repr

namespace Spelling

/-- The parts with their separators. -/
def text (p : Spelling) : String :=
  (match p.host with | some h => h ++ "/" | none => "") ++ p.path ++
    (match p.tag with | some t => ":" ++ t | none => "") ++
    (match p.digest with | some d => "@" ++ d.text | none => "")

/-- The host that is meant: without one the default registry, which has an older name. -/
def fullHost (p : Spelling) : String :=
  match p.host with
  | none => Reference.defaultHost
  | some h => if h = Reference.legacyHost then Reference.defaultHost else h

/-- The path that is meant: a single component lies in the official namespace of the default
registry. -/
def fullPath (p : Spelling) : String :=
  if p.fullHost = Reference.defaultHost ∧ '/' ∉ p.path.toList then
    Reference.officialNamespace ++ p.path
  else p.path

/-- The reference that is meant. -/
def reference (p : Spelling) : Reference := ⟨p.fullHost, p.fullPath, p.tag, p.digest⟩

/-- Whether a text before the first slash is a host: it has a dot, a colon or a capital letter of
ASCII, or is `localhost`. -/
def IsHostLike (h : String) : Prop :=
  '.' ∈ h.toList ∨ ':' ∈ h.toList ∨ (∃ c ∈ h.toList, 'A' ≤ c ∧ c ≤ 'Z') ∨ h = "localhost"

/-- Whether a text is spelled so. -/
structure Spells (p : Spelling) (s : String) : Prop where
  text_eq : p.text = s
  /-- There is a host exactly if what stands before the first slash is like one. -/
  host_iff : ∀ h, p.host = some h ↔ (∃ rest, s = h ++ "/" ++ rest) ∧ '/' ∉ h.toList ∧ IsHostLike h
  host_shape : ∀ h, p.host = some h → HostShape h.toList
  path_shape : PathShape p.path.toList
  tag_shape : ∀ t, p.tag = some t → TagShape t.toList
  digest_shape : ∀ d, p.digest = some d → DigestShape d
  size_name_le : Utf8.size p.reference.name.toList ≤ 255

theorem isHostLike_iff {h : String} : IsHostLike h ↔ looksLikeHost h.toList = true := by
  have hupper : ∀ c : Char, ('A' ≤ c ∧ c ≤ 'Z') ↔ c.isUpper = true := fun c =>
    Reference.isUpper_iff.symm
  simp only [IsHostLike, looksLikeHost, hupper, Bool.or_eq_true, List.any_eq_true, beq_iff_eq,
    String.toList_inj]
  grind

/-! ## Completion -/

theorem toList_officialNamespace :
    Reference.officialNamespace.toList = "library".toList ++ ['/'] := by
  decide

/-- The path of a well-formed reference before it was completed. -/
theorem exists_path_of_completed {r : Reference} (h : r.WellFormed) {host rest : List Char}
    (hcut : completed host rest = (r.host.toList, r.path.toList ++ r.suffix)) :
    Reference.presentHost host = r.host.toList ∧ ∃ path : String,
      rest = path.toList ++ r.suffix ∧ Reference.isPath path.toList = true ∧
      r.path = if r.host = Reference.defaultHost ∧ '/' ∉ path.toList then
        Reference.officialNamespace ++ path else path := by
  unfold completed at hcut
  dsimp only at hcut
  split at hcut
  · next hshort =>
    obtain ⟨hhost, hpath⟩ := Prod.mk.inj hcut
    obtain ⟨hdefault, hrest⟩ := hshort
    have hdefault : r.host = Reference.defaultHost :=
      String.toList_inj.1 (hhost.symm.trans hdefault)
    -- Both the namespace and the path end their first component at the first slash.
    obtain ⟨first, path, hsplit⟩ : ∃ first path, splitFirst '/' r.path.toList = some (first, path) :=
      by
        cases hs : splitFirst '/' r.path.toList with
        | none => exact absurd (h.longPath hdefault) (splitFirst_eq_none_iff.1 hs)
        | some parts => exact ⟨parts.1, parts.2, rfl⟩
    obtain ⟨hparts, hslash⟩ := eq_append_of_splitFirst hsplit
    have hboth : some ("library".toList, rest) = some (first, path ++ r.suffix) := by
      rw [← splitFirst_append_cons (c := '/') _ hslash,
        ← splitFirst_append_cons (c := '/') rest (a := "library".toList) (by decide)]
      rw [hparts, toList_officialNamespace] at hpath
      simpa using congrArg (splitFirst '/') hpath
    cases hboth
    have hshort : r.host = Reference.defaultHost ∧ '/' ∉ (String.ofList path).toList := by
      refine ⟨hdefault, fun hslash => hrest ?_⟩
      exact List.mem_append_left _ (by simpa using hslash)
    have hvalid := h.validPath
    rw [hparts, Reference.isPath_append_slash, Bool.and_eq_true] at hvalid
    refine ⟨hhost, String.ofList path, by simp, by simpa using hvalid.2, ?_⟩
    rw [if_pos hshort, ← String.toList_inj, hparts]
    simp [toList_officialNamespace]
  · next hlong =>
    obtain ⟨hhost, hpath⟩ := Prod.mk.inj hcut
    refine ⟨hhost, r.path, hpath, h.validPath, ?_⟩
    rw [if_neg]
    exact fun hshort => hshort.2 (h.longPath hshort.1)

/-! ## The text of a spelling -/

/-- The host with its slash. -/
def front (p : Spelling) : List Char :=
  match p.host with
  | some h => h.toList ++ ['/']
  | none => []

theorem toList_text (p : Spelling) :
    p.text.toList = p.front ++ (p.path.toList ++ p.reference.suffix) := by
  unfold text front Reference.suffix reference
  cases p.host <;> cases p.tag <;> cases p.digest <;> simp

/-- The host as it is written, or the default registry. -/
def writtenHost (p : Spelling) : List Char :=
  (p.host.map String.toList).getD Reference.defaultHost.toList

theorem toList_fullHost (p : Spelling) :
    p.fullHost.toList = Reference.presentHost p.writtenHost := by
  unfold fullHost writtenHost Reference.presentHost
  cases p.host with
  | none => decide
  | some h => simp [String.toList_inj, apply_ite String.toList]

theorem completed_writtenHost {p : Spelling} (h : '/' ∉ p.reference.suffix) :
    completed p.writtenHost (p.path.toList ++ p.reference.suffix) =
      (p.fullHost.toList, p.fullPath.toList ++ p.reference.suffix) := by
  simp only [completed, fullPath, ← toList_fullHost, String.toList_inj, List.mem_append, h, or_false]
  split <;> simp

namespace Spells

variable {p q : Spelling} {s : String}

theorem isHost_writtenHost (h : p.Spells s) :
    Reference.isHost p.writtenHost = true ∧ looksLikeHost p.writtenHost = true := by
  unfold writtenHost
  cases hhost : p.host with
  | none => decide
  | some host =>
      obtain ⟨-, -, hlike⟩ := (h.host_iff host).1 hhost
      exact ⟨Reference.isHost_iff.2 (h.host_shape host hhost), isHostLike_iff.1 hlike⟩

theorem isPath_fullPath (h : p.Spells s) : Reference.isPath p.fullPath.toList = true := by
  have hpath := Reference.isPath_iff.2 h.path_shape
  unfold fullPath
  split
  · rw [String.toList_append, toList_officialNamespace, List.append_assoc, List.singleton_append,
      Reference.isPath_append_slash, hpath]
    decide
  · exact hpath

/-- What is meant by a spelling is well formed. -/
theorem wellFormed (h : p.Spells s) : p.reference.WellFormed where
  validHost := by
    rw [reference, toList_fullHost]
    exact Reference.isHost_presentHost h.isHost_writtenHost.1
  recognisedHost := by
    rw [reference, toList_fullHost]
    exact Reference.looksLikeHost_presentHost h.isHost_writtenHost.2
  currentHost := by
    rw [reference, ne_eq, ← String.toList_inj, toList_fullHost]
    exact Reference.presentHost_ne p.writtenHost
  validPath := h.isPath_fullPath
  longPath hdefault := by
    have hdefault : p.fullHost = Reference.defaultHost := hdefault
    have hnamespace : '/' ∈ Reference.officialNamespace.toList := by decide
    rw [reference, fullPath]
    split
    · simp [hnamespace]
    · next hshort => simpa [hdefault] using hshort
  size_name_le := h.size_name_le
  validTag tag htag := Reference.isTag_iff.2 (h.tag_shape tag htag)
  validDigest digest hdigest := Digest.parse_eq_ok_iff.2 ⟨rfl, h.digest_shape digest hdigest⟩

/-- A text is cut behind its host as it was spelled, and completed. -/
theorem splitHost_eq (h : p.Spells s) :
    splitHost s.toList = (p.fullHost.toList, p.fullPath.toList ++ p.reference.suffix) := by
  have htext : s.toList = p.front ++ (p.path.toList ++ p.reference.suffix) := by
    rw [← h.text_eq, toList_text]
  rw [← completed_writtenHost (Reference.slash_notMem_suffix h.wellFormed)]
  rcases splitHost_eq_completed s.toList with ⟨hnone, heq⟩ | ⟨first, rest, hcs, hslash, hlooks, heq⟩
  · have hhost : p.host = none := Option.eq_none_iff_forall_ne_some.2 fun host hhost => by
      obtain ⟨⟨rest, hrest⟩, hslash, hlike⟩ := (h.host_iff host).1 hhost
      rw [isHostLike_iff, hnone host.toList rest.toList (by simp [hrest]) hslash] at hlike
      cases hlike
    rw [heq, htext, front, writtenHost, hhost]
    rfl
  · have hhost : p.host = some (String.ofList first) := by
      refine (h.host_iff _).2 ⟨⟨String.ofList rest, ?_⟩, by simpa using hslash,
        isHostLike_iff.2 (by simpa using hlooks)⟩
      rw [← String.toList_inj, hcs]
      simp
    have hrest : rest = p.path.toList ++ p.reference.suffix := by
      rw [hcs, front, hhost] at htext
      simpa using htext
    rw [heq, hrest, writtenHost, hhost]
    simp

theorem parse_eq (h : p.Spells s) (hhex : isHex64 s.toList = false) :
    Reference.parse s = .ok p.reference := by
  have hformed := h.wellFormed
  have hpath : Reference.isPath p.fullPath.toList = true := hformed.validPath
  rw [hformed.parse_eq_ofParts hhex h.splitHost_eq (Reference.at_notMem_of_isPath hpath)
    (Reference.splitTag_of_colon_notMem (Reference.colon_notMem_of_isPath hpath))]
  exact hformed.ofParts_eq s

/-- A text is spelled in one way only. -/
theorem unique (hp : p.Spells s) (hq : q.Spells s) : p = q := by
  have hhost : p.host = q.host := Option.ext fun host => by rw [hp.host_iff, hq.host_iff]
  have htext : p.reference.text = q.reference.text := by
    rw [← String.toList_inj, Reference.toList_text, Reference.toList_text, Reference.behindHost_eq,
      Reference.behindHost_eq]
    have hcut := hp.splitHost_eq.symm.trans hq.splitHost_eq
    rw [Prod.mk.injEq] at hcut
    simp only [reference] at hcut ⊢
    rw [hcut.1, hcut.2]
  -- What is meant is determined by its full name.
  have hread := Reference.parse_text hp.wellFormed
  rw [htext, Reference.parse_text hq.wellFormed, Except.ok.injEq] at hread
  have hpath : p.path.toList = q.path.toList := by
    have hsame := congrArg String.toList (hp.text_eq.trans hq.text_eq.symm)
    rw [toList_text, toList_text, front, front, hhost, hread, List.append_cancel_left_eq,
      List.append_cancel_right_eq] at hsame
    exact hsame
  obtain ⟨host, path, tag, digest⟩ := p
  obtain ⟨host', path', tag', digest'⟩ := q
  obtain rfl : path = path' := String.toList_inj.1 hpath
  have htag : tag' = tag := congrArg Reference.tag hread
  have hdigest : digest' = digest := congrArg Reference.digest hread
  rw [show host = host' from hhost, htag, hdigest]

end Spells

/-! ## What is read is spelled -/

section OfReference

variable {p : Spelling} {r : Reference} {s : String}

theorem reference_eq (hhost : Reference.presentHost p.writtenHost = r.host.toList)
    (hpath : r.path = if r.host = Reference.defaultHost ∧ '/' ∉ p.path.toList then
      Reference.officialNamespace ++ p.path else p.path)
    (htag : p.tag = r.tag) (hdigest : p.digest = r.digest) : p.reference = r := by
  have hfull : p.fullHost = r.host := by rw [← String.toList_inj, toList_fullHost, hhost]
  rw [reference, fullPath, hfull, ← hpath, htag, hdigest]

/-- The parts of a well-formed reference have the shapes of a spelling. -/
theorem Spells.of_wellFormed (hformed : r.WellFormed) (hreference : p.reference = r)
    (htext : s.toList = p.front ++ (p.path.toList ++ r.suffix))
    (hhost : ∀ h, p.host = some h ↔
      (∃ rest, s = h ++ "/" ++ rest) ∧ '/' ∉ h.toList ∧ IsHostLike h)
    (hshape : ∀ h, p.host = some h → Reference.isHost h.toList = true)
    (hpath : Reference.isPath p.path.toList = true) : p.Spells s := by
  subst hreference
  exact {
    text_eq := by rw [← String.toList_inj, toList_text, htext]
    host_iff := hhost
    host_shape := fun h hh => Reference.isHost_iff.1 (hshape h hh)
    path_shape := Reference.isPath_iff.1 hpath
    tag_shape := fun t ht => Reference.isTag_iff.1 (hformed.validTag t ht)
    digest_shape := fun d hd => (Digest.parse_eq_ok_iff.1 (hformed.validDigest d hd)).2
    size_name_le := hformed.size_name_le }

end OfReference

/-- A text that is read is spelled, and what is read is what is meant. -/
theorem exists_of_parse {s : String} {r : Reference} (h : Reference.parse s = .ok r) :
    ∃ p : Spelling, p.Spells s ∧ r = p.reference := by
  have hformed := Reference.WellFormed.of_parse h
  have hcut := Reference.splitHost_of_parse h
  rcases splitHost_eq_completed s.toList with ⟨hnone, heq⟩ | ⟨first, rest, hcs, hslash, hlooks, heq⟩
  · -- There is no host in writing.
    obtain ⟨hhost, path, hrest, hpath, hfull⟩ :=
      exists_path_of_completed hformed (heq.symm.trans hcut)
    have hreference : reference ⟨none, path, r.tag, r.digest⟩ = r :=
      reference_eq hhost hfull rfl rfl
    refine ⟨_, .of_wellFormed hformed hreference hrest (fun host => ?_) (by simp) hpath,
      hreference.symm⟩
    refine ⟨fun hsome => (by cases hsome), ?_⟩
    rintro ⟨⟨tail, htail⟩, hslash, hlike⟩
    rw [isHostLike_iff, hnone host.toList tail.toList (by simp [htail]) hslash] at hlike
    cases hlike
  · obtain ⟨hhost, path, hrest, hpath, hfull⟩ :=
      exists_path_of_completed hformed (heq.symm.trans hcut)
    obtain ⟨first, rfl⟩ : ∃ written : String, first = written.toList :=
      ⟨String.ofList first, String.toList_ofList.symm⟩
    have hreference : reference ⟨some first, path, r.tag, r.digest⟩ = r :=
      reference_eq hhost hfull rfl rfl
    have hshape : Reference.isHost first.toList = true :=
      Reference.isHost_of_presentHost (hhost ▸ hformed.validHost)
    have htext : s.toList = (first.toList ++ ['/']) ++ (path.toList ++ r.suffix) := by
      rw [hcs, hrest, List.append_assoc, List.singleton_append]
    refine ⟨_, .of_wellFormed hformed hreference htext (fun host => ?_) (fun host hsome => ?_) hpath,
      hreference.symm⟩
    · rw [Option.some.injEq]
      constructor
      · rintro rfl
        refine ⟨⟨String.ofList rest, ?_⟩, hslash, isHostLike_iff.2 hlooks⟩
        rw [← String.toList_inj, hcs]
        simp
      · -- What stands before the first slash is determined.
        rintro ⟨⟨tail, htail⟩, hslash', -⟩
        have hsame : splitFirst '/' s.toList = some (host.toList, tail.toList) := by
          rw [htail]
          simpa using splitFirst_append_cons tail.toList hslash'
        rw [hcs, splitFirst_append_cons rest hslash] at hsame
        rw [← String.toList_inj]
        exact congrArg Prod.fst (Option.some.inj hsame)
    · cases hsome
      exact hshape

end Spelling

/-- The texts that are read are those that can be spelled, apart from 64 hexadecimal digits. There
is one way to spell a text, and what is read is what is meant by it. -/
theorem Reference.parse_spelled (s : String) :
    (∀ p q : Spelling, p.Spells s → q.Spells s → p = q) ∧
      ∀ r, parse s = .ok r ↔
        ¬(s.length = 64 ∧ ∀ c ∈ s.toList, isLowerHex c = true) ∧
          ∃ p : Spelling, p.Spells s ∧ r = p.reference := by
  have hhex : ¬(s.length = 64 ∧ ∀ c ∈ s.toList, isLowerHex c = true) ↔ isHex64 s.toList = false := by
    rw [← Bool.not_eq_true, isHex64, Bool.and_eq_true, List.all_eq_true, decide_eq_true_iff,
      String.length_toList]
  refine ⟨fun p q hp hq => hp.unique hq, fun r => ⟨fun h => ⟨hhex.2 ?_, ?_⟩, ?_⟩⟩
  · rw [← Bool.not_eq_true]
    intro htrue
    rw [parse, if_pos htrue] at h
    cases h
  · exact Spelling.exists_of_parse h
  · rintro ⟨hbare, p, hp, rfl⟩
    exact hp.parse_eq (hhex.1 hbare)

/-- A short name with the older name of the default registry. -/
example : (Spelling.mk (some "index.docker.io") "alpine" (some "3.19") none).reference =
    ⟨"docker.io", "library/alpine", some "3.19", none⟩ := by
  decide

end ImageSync
