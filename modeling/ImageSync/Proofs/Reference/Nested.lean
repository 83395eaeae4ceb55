import ImageSync.Proofs.Reference.RoundTrip

/-!
# Full names inside longer texts

A full name may stand at the end of a longer text, where its host is a component of a path. What is
before it decides alone how the text is completed; whether a host can be a component is a question
of its port and its letters.

## Main statements

* `Reference.exists_completion`: a short text is completed at its front.
* `Reference.isComponent_iff_of_isHost`: the hosts that can be path components.
* `Reference.isPath_nestedPath`: what stands before a full name, its host and its path are a path
  together exactly if the host can be a component.
* `Reference.parse_nested`: what is read from such a text.
-/

namespace ImageSync.Reference

open Text

/-! ## The front of a text -/

theorem splitHost_of_slash {host rest : List Char} (hslash : '/' ∉ host)
    (hlooks : looksLikeHost host = true) (hrest : '/' ∈ rest) :
    splitHost (host ++ '/' :: rest) = (presentHost host, rest) := by
  simp [splitHost, splitFirst_append_cons rest hslash, hlooks, presentHost, hrest]

theorem splitHost_of_not_looksLikeHost {first rest : List Char} (hslash : '/' ∉ first)
    (hlooks : looksLikeHost first = false) :
    splitHost (first ++ '/' :: rest) = (defaultHost.toList, first ++ '/' :: rest) := by
  have hlegacy : defaultHost.toList ≠ legacyHost.toList := by decide
  simp [splitHost, splitFirst_append_cons rest hslash, hlooks, hlegacy]

/-- What a text is completed to depends on its front only: what follows the front is kept. -/
theorem exists_completion {front : List Char} (hfront : '/' ∈ front) :
    ∃ before, ∀ rest, '/' ∈ rest →
      (splitHost (front ++ rest)).1 ++ '/' :: (splitHost (front ++ rest)).2 = before ++ rest := by
  obtain ⟨first, tail, rfl, hslash⟩ := List.eq_append_cons_of_mem hfront
  by_cases hlooks : looksLikeHost first = true
  · refine ⟨presentHost first ++ '/' :: tail, fun rest hrest => ?_⟩
    rw [List.append_assoc, List.cons_append,
      splitHost_of_slash hslash hlooks (List.mem_append_right tail hrest)]
    simp
  · refine ⟨defaultHost.toList ++ '/' :: (first ++ '/' :: tail), fun rest hrest => ?_⟩
    rw [List.append_assoc, List.cons_append,
      splitHost_of_not_looksLikeHost hslash (by simpa using hlooks)]
    simp

/-- Behind the last slash there is no colon, so no tag. -/
theorem splitTag_append_slash (a : List Char) {b : List Char} (hb : ':' ∉ b) :
    splitTag (a ++ '/' :: b) = (a ++ '/' :: b, none) := by
  rw [splitTag]
  cases hs : splitLast ':' (a ++ '/' :: b) with
  | none => rfl
  | some parts =>
      obtain ⟨path, tag⟩ := parts
      have hslash : '/' ∈ tag := by
        rcases List.append_eq_append_iff.1 (eq_append_of_splitLast hs).1 with
          ⟨mid, -, htail⟩ | ⟨mid, -, htail⟩
        · -- the colon stands behind the slash
          have hcolon : ':' ∈ '/' :: b := by simp [htail]
          simp [hb] at hcolon
        · cases mid with
          | nil => simp at htail
          | cons c mid =>
              rw [List.cons_append, List.cons.injEq] at htail
              simp [htail.2]
      simp [hslash]

/-! ## Hosts as components -/

namespace ComponentState

/-- Inside a component, letters, digits and hyphens that end in a letter or digit are read to their
end. -/
theorem accepts_append_inner {cs rest : List Char} {s : ComponentState}
    (hs : s = run ∨ s = hyphens) (h : ∀ c ∈ cs, isLowerAlnum c = true ∨ c = '-')
    (hlast : cs.getLast?.any isLowerAlnum = true) : s.accepts (cs ++ rest) = run.accepts rest := by
  induction cs generalizing s with
  | nil => simp at hlast
  | cons c cs ih =>
      have hc := h c List.mem_cons_self
      have hcs : ∀ d ∈ cs, isLowerAlnum d = true ∨ d = '-' := fun d hd =>
        h d (List.mem_cons_of_mem c hd)
      cases cs with
      | nil =>
          have hc : isLowerAlnum c = true := by simpa using hlast
          simp [accepts, next_of_isLowerAlnum hc]
      | cons d cs =>
          have hlast : (d :: cs).getLast?.any isLowerAlnum = true := by simpa using hlast
          obtain ⟨s', hnext, hs'⟩ : ∃ s', s.next c = some s' ∧ (s' = run ∨ s' = hyphens) := by
            rcases hc with hc | rfl
            · exact ⟨run, next_of_isLowerAlnum hc s, .inl rfl⟩
            · rcases hs with rfl | rfl <;> exact ⟨hyphens, rfl, .inr rfl⟩
          rw [List.cons_append, accepts, hnext]
          exact ih hs' hcs hlast

/-- A label without capital letters is read to its end. -/
theorem accepts_append_label {cs : List Char} (hlabel : isLabel cs = true)
    (hlower : cs.any Char.isUpper = false) (s : ComponentState) (rest : List Char) :
    s.accepts (cs ++ rest) = run.accepts rest := by
  simp only [isLabel, Bool.and_eq_true, List.all_eq_true] at hlabel
  obtain ⟨⟨hall, hhead⟩, hlast⟩ := hlabel
  have halnum : ∀ c ∈ cs, c.isAlphanum = true → isLowerAlnum c = true := by
    intro c hc h
    have hupper : c.isUpper = false := by simpa using List.any_eq_false.1 hlower c hc
    rw [isAlphanum_iff, hupper] at h
    simpa [isLowerAlnum] using h
  cases cs with
  | nil => simp at hhead
  | cons c cs =>
      have hc : isLowerAlnum c = true := halnum c List.mem_cons_self (by simpa using hhead)
      rw [List.cons_append, accepts, next_of_isLowerAlnum hc]
      cases cs with
      | nil => rfl
      | cons d cs =>
          refine accepts_append_inner (.inl rfl) (fun x hx => ?_) ?_
          · have hx' := hall x (List.mem_cons_of_mem c hx)
            rw [Bool.or_eq_true] at hx'
            exact hx'.imp (halnum x (List.mem_cons_of_mem c hx)) (by simp)
          · rw [List.getLast?_cons_cons] at hlast
            obtain ⟨x, hx, hx'⟩ := (Option.any_eq_true _ _).1 hlast
            rw [hx]
            exact halnum x (List.mem_cons_of_mem c (List.mem_of_getLast? hx)) hx'

/-- So are labels with dots between. -/
theorem accepts_labels {labels : List (List Char)} (hne : labels ≠ [])
    (h : ∀ l ∈ labels, isLabel l = true ∧ l.any Char.isUpper = false) (s : ComponentState) :
    s.accepts (joinWith '.' labels) = true := by
  induction labels generalizing s with
  | nil => exact absurd rfl hne
  | cons l labels ih =>
      obtain ⟨hlabel, hlower⟩ := h l List.mem_cons_self
      cases labels with
      | nil =>
          have := accepts_append_label hlabel hlower s []
          rwa [List.append_nil] at this
      | cons l' labels =>
          rw [joinWith, accepts_append_label hlabel hlower]
          · exact ih (by simp) (fun m hm => h m (List.mem_cons_of_mem l hm)) dot
          · simp

end ComponentState

/-- The hosts that can be path components are those without port and without capital letters. -/
theorem isComponent_iff_of_isHost {host : List Char} (h : isHost host = true) :
    isComponent host = true ↔ ':' ∉ host ∧ host.any Char.isUpper = false := by
  constructor
  · intro hcomponent
    have hchars := ComponentState.isComponentChar_of_accepts hcomponent
    refine ⟨fun hc => absurd (hchars _ hc) (by decide), List.any_eq_false.2 fun c hc => ?_⟩
    have hpath : isPathChar c = true := by simp [isPathChar, hchars c hc]
    simp [isUpper_eq_false_of_isPathChar hpath]
  · rintro ⟨hcolon, hlower⟩
    have hlabels : isHostName host = true := by
      simpa [isHost, splitFirst_eq_none_iff.2 hcolon] using h
    rw [isComponent, ← joinWith_splitOn '.' host]
    refine ComponentState.accepts_labels (splitOn_ne_nil '.' host) (fun l hl => ?_) _
    refine ⟨List.all_eq_true.1 hlabels l hl, List.any_eq_false.2 fun c hc => ?_⟩
    exact List.any_eq_false.1 hlower c (mem_of_mem_splitOn hl hc)

theorem isPath_append_slash (a b : List Char) :
    isPath (a ++ '/' :: b) = (isPath a && isPath b) := by
  rw [isPath, splitOn_append_cons, List.all_append, isPath, isPath]

theorem isPath_of_slash_notMem {cs : List Char} (h : '/' ∉ cs) : isPath cs = isComponent cs := by
  simp [isPath, splitOn_of_notMem h]

/-- What can stand before a name in a path: nothing, or a path and a slash. -/
def IsFront (front : List Char) : Prop :=
  front = [] ∨ ∃ path, isPath path = true ∧ front = path ++ ['/']

section Nested

variable {front : List Char} {r : Reference}

/-- The host and the path of a reference behind something else. -/
def nestedPath (front : List Char) (r : Reference) : List Char := front ++ r.name.toList

theorem nestedPath_eq (front : List Char) (r : Reference) :
    nestedPath front r = front ++ r.host.toList ++ '/' :: r.path.toList := by
  simp [nestedPath, name]

/-- The host of a reference is what may keep its name from being a path. -/
theorem isPath_nestedPath (hfront : IsFront front) (h : r.WellFormed) :
    isPath (nestedPath front r) = isComponent r.host.toList := by
  have hhost := isPath_of_slash_notMem (slash_notMem_of_isHost h.validHost)
  rw [nestedPath_eq, isPath_append_slash, h.validPath, Bool.and_true]
  rcases hfront with rfl | ⟨path, hpath, rfl⟩
  · exact hhost
  · rw [List.append_assoc, List.singleton_append, isPath_append_slash, hpath, Bool.true_and, hhost]

theorem any_isUpper_nestedPath (hfront : IsFront front) (h : r.WellFormed) :
    (nestedPath front r).any Char.isUpper = r.host.toList.any Char.isUpper := by
  have hslash : Char.isUpper '/' = false := by decide
  have hupper : front.any Char.isUpper = false := by
    rcases hfront with rfl | ⟨path, hpath, rfl⟩
    · rfl
    · simp [any_isUpper_of_isPath hpath, hslash]
  simp [nestedPath_eq, hupper, any_isUpper_of_isPath h.validPath, hslash]

theorem at_notMem_nestedPath (hfront : IsFront front) (h : r.WellFormed) :
    '@' ∉ nestedPath front r := by
  have hhost : '@' ∉ r.host.toList := fun hc =>
    absurd (isHostChar_of_isHost h.validHost _ hc) (by decide)
  have hat : '@' ∉ front := by
    rcases hfront with rfl | ⟨path, hpath, rfl⟩
    · simp
    · simp [at_notMem_of_isPath hpath]
  simp [nestedPath_eq, hat, hhost, at_notMem_of_isPath h.validPath]

/-- The reference that the full name of a reference becomes behind a host and something else. -/
def nested (host front : List Char) (r : Reference) : Reference where
  host := String.ofList (presentHost host)
  path := String.ofList (nestedPath front r)
  tag := r.tag
  digest := r.digest

variable {host : List Char}

theorem isHost_presentHost (h : isHost host = true) : isHost (presentHost host) = true := by
  have hdefault : isHost defaultHost.toList = true := by decide
  unfold presentHost
  split
  · exact hdefault
  · exact h

theorem isHost_of_presentHost (h : isHost (presentHost host) = true) : isHost host = true := by
  have hlegacy : isHost legacyHost.toList = true := by decide
  unfold presentHost at h
  split at h
  · next heq => rwa [heq]
  · exact h

section OfParts

variable {input : String} {path : List Char} {tag : Option (List Char)} {digest : Option Digest}

theorem ofParts_of_isUpper (h : path.any Char.isUpper = true) :
    ofParts input host path tag digest = .error (.upperCase input) := by
  unfold ofParts
  rw [if_pos h]

theorem ofParts_of_not_isPath (hlower : path.any Char.isUpper = false) (h : isPath path = false) :
    ofParts input host path tag digest = .error (.malformed input) := by
  unfold ofParts
  simp [hlower, h]

theorem ofParts_of_lt_length (hpath : isPath path = true) (hhost : isHost host = true)
    (h : maxNameLength < host.length + 1 + path.length) :
    ofParts input host path tag digest = .error (.tooLong input) := by
  unfold ofParts
  simp [any_isUpper_of_isPath hpath, hpath, ne_nil_of_isPath hpath, hhost, h]

end OfParts

/-- The tag and the digest of a reference at another place. -/
def moved (host path : List Char) (r : Reference) : Reference where
  host := String.ofList (presentHost host)
  path := String.ofList path
  tag := r.tag
  digest := r.digest

section Moved

variable {path : List Char} (hhost : isHost host = true) (hlooks : looksLikeHost host = true)
  (hpath : isPath path = true) (hlong : presentHost host = defaultHost.toList → '/' ∈ path)
  (h : r.WellFormed)

include hhost hlooks hpath hlong h

theorem wellFormed_moved (hsize : Utf8.size (moved host path r).name.toList ≤ maxNameLength) :
    (moved host path r).WellFormed where
  validHost := by simpa [moved] using isHost_presentHost hhost
  recognisedHost := by simpa [moved] using looksLikeHost_presentHost hlooks
  currentHost := by
    rw [ne_eq, ← String.toList_inj]
    simpa [moved] using presentHost_ne host
  validPath := by simpa [moved] using hpath
  longPath hdefault := by
    have hdefault : presentHost host = defaultHost.toList := by
      rw [← hdefault, moved, String.toList_ofList]
    simpa [moved] using hlong hdefault
  size_name_le := hsize
  validTag := h.validTag
  validDigest := h.validDigest

/-- Only its length can be wrong with another place that has a valid path. -/
theorem ofParts_moved (input : String) :
    ofParts input (presentHost host) path (r.tag.map String.toList) r.digest =
      if maxNameLength < Utf8.size (moved host path r).name.toList then .error (.tooLong input)
      else .ok (moved host path r) := by
  have hvalid := isHost_presentHost hhost
  by_cases hsize : maxNameLength < Utf8.size (moved host path r).name.toList
  · rw [if_pos hsize]
    rw [size_name (by simpa [moved] using hvalid) (by simpa [moved] using hpath)] at hsize
    exact ofParts_of_lt_length hpath hvalid (by simpa [moved] using hsize)
  · rw [if_neg hsize]
    have hformed := wellFormed_moved hhost hlooks hpath hlong h (Nat.le_of_not_lt hsize)
    simpa [moved] using hformed.ofParts_eq input

end Moved

/-- How a full name is read behind a host and something else. Capital letters and a port of its host
make it an error. -/
theorem parse_nested (hhost : isHost host = true) (hlooks : looksLikeHost host = true)
    (hfront : IsFront front) (h : r.WellFormed) {input : String}
    (hinput : input.toList = host ++ '/' :: (front ++ r.text.toList)) :
    parse input =
      if r.host.toList.any Char.isUpper then .error (.upperCase input)
      else if ':' ∈ r.host.toList then .error (.malformed input)
      else if maxNameLength < Utf8.size (nested host front r).name.toList then
        .error (.tooLong input)
      else .ok (nested host front r) := by
  have hslash : '/' ∈ front ++ r.text.toList := List.mem_append_right front (slash_mem_text r)
  have hrest : front ++ r.text.toList = nestedPath front r ++ r.suffix := by
    simp [nestedPath_eq, toList_text, behindHost_eq]
  have hsplit : splitHost input.toList = (presentHost host, nestedPath front r ++ r.suffix) := by
    rw [hinput, splitHost_of_slash (slash_notMem_of_isHost hhost) hlooks hslash, hrest]
  have huntagged : splitTag (nestedPath front r) = (nestedPath front r, none) := by
    rw [nestedPath_eq]
    exact splitTag_append_slash _ (colon_notMem_of_isPath h.validPath)
  rw [h.parse_eq_ofParts (isHex64_of_mem (c := '/') (by decide) (by simp [hinput]))
    hsplit (at_notMem_nestedPath hfront h) huntagged]
  have hupper := any_isUpper_nestedPath hfront h
  have hpath := isPath_nestedPath hfront h
  by_cases hcapital : r.host.toList.any Char.isUpper = true
  · rw [if_pos hcapital, ofParts_of_isUpper (hupper.trans hcapital)]
  rw [if_neg hcapital]
  rw [Bool.not_eq_true] at hcapital
  by_cases hcolon : ':' ∈ r.host.toList
  · have hcomponent : isComponent r.host.toList = false := by
      rw [Bool.eq_false_iff, ne_eq, isComponent_iff_of_isHost h.validHost]
      exact fun hno => hno.1 hcolon
    rw [if_pos hcolon, ofParts_of_not_isPath (hupper.trans hcapital) (hpath.trans hcomponent)]
  have hcomponent : isComponent r.host.toList = true :=
    (isComponent_iff_of_isHost h.validHost).2 ⟨hcolon, hcapital⟩
  rw [hcomponent] at hpath
  rw [if_neg hcolon]
  exact ofParts_moved hhost hlooks hpath (fun _ => by simp [nestedPath_eq]) h input

end Nested

end ImageSync.Reference
