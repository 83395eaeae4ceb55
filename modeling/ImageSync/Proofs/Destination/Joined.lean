import ImageSync.Proofs.Destination.Below

/-!
# Joining names

A name that is put below a root loses the slashes at its beginning, the root loses those at its end,
and one slash comes between. Where one of the two has nothing but slashes there is nothing to join, so
joining is associative. What a text is called last does not depend on what stands before it.

## Main definitions

* `Destination.Framed`: a text whose `core` begins and ends with other characters than slashes.

## Main statements

* `Destination.joinChars_assoc`: names are joined in any order.
* `Destination.lastComponent_joinChars`: the last component of a name below a root.
* `Destination.join_laws`: both for texts, with what stands between root and name.
-/

namespace ImageSync.Destination

open Text

/-- A text whose `core` stands between slashes and neither begins nor ends with one. -/
structure Framed (cs front core back : List Char) : Prop where
  eq_append : cs = front ++ (core ++ back)
  front_slashes : ∀ c ∈ front, c = '/'
  back_slashes : ∀ c ∈ back, c = '/'
  ne_nil : core ≠ []
  head_ne : core.head? ≠ some '/'
  last_ne : core.getLast? ≠ some '/'

/-- A text that does not consist of slashes has a core. -/
theorem exists_framed {cs : List Char} (h : ∃ c ∈ cs, c ≠ '/') :
    ∃ front core back, Framed cs front core back := by
  obtain ⟨front, back, heq, hfront, hback⟩ := exists_trim (fun c => c == '/') cs
  simp only [beq_iff_eq] at hfront hback
  refine ⟨front, trim (fun c => c == '/') cs, back, heq, hfront, hback, fun hnil => ?_, ?_, ?_⟩
  · obtain ⟨c, hc, hne⟩ := h
    rw [heq, hnil, List.nil_append] at hc
    rcases List.mem_append.1 hc with hc | hc
    · exact hne (hfront c hc)
    · exact hne (hback c hc)
  · intro hhead
    simpa using of_head?_trim hhead
  · intro hlast
    simpa using of_getLast?_trimEnd hlast

theorem trimEnd_of_getLast?_ne {cs : List Char} (h : cs.getLast? ≠ some '/') :
    trimEnd (fun c => c == '/') cs = cs :=
  trimEnd_eq_self fun c hc => by
    have hne : c ≠ '/' := fun heq => h (heq ▸ hc)
    simpa using hne

/-- Slashes behind a core are trimmed, whatever stands before it. -/
theorem trimEnd_append_core {x core back : List Char} (hne : core ≠ [])
    (hlast : core.getLast? ≠ some '/') (hback : ∀ c ∈ back, c = '/') :
    trimEnd (fun c => c == '/') (x ++ (core ++ back)) = x ++ core := by
  obtain ⟨init, d, rfl⟩ := (List.eq_nil_or_concat core).resolve_left hne
  rw [← List.append_assoc, trimEnd_append_of_forall fun c hc => by simp [hback c hc]]
  exact trimEnd_of_getLast?_ne (by simpa using hlast)

/-- Slashes at the beginning are trimmed, whatever follows. -/
theorem trimStart_slashes_append {front : List Char} (h : ∀ c ∈ front, c = '/') (cs : List Char) :
    trimStart (fun c => c == '/') (front ++ cs) = trimStart (fun c => c == '/') cs :=
  List.dropWhile_append_of_pos fun c hc => by simp [h c hc]

namespace Framed

variable {cs front core back : List Char} (h : Framed cs front core back)
include h

theorem trimStart_eq : trimStart (fun c => c == '/') cs = core ++ back := by
  obtain ⟨c, rest, hcore⟩ := List.exists_cons_of_ne_nil h.ne_nil
  have hc : c ≠ '/' := by simpa [hcore] using h.head_ne
  rw [h.eq_append, trimStart_slashes_append h.front_slashes, hcore, List.cons_append, trimStart,
    List.dropWhile_cons_of_neg (by simpa using hc)]

/-- What comes behind a text that stands behind another one. -/
theorem stem_append (x : List Char) : stem (x ++ cs) = x ++ (front ++ (core ++ ['/'])) := by
  have hne : (x ++ cs).isEmpty = false := by simp [h.eq_append, h.ne_nil]
  rw [stem, hne, h.eq_append, ← List.append_assoc x,
    trimEnd_append_core h.ne_nil h.last_ne h.back_slashes]
  simp

/-- A name that has a core is joined to a root by putting it behind the stem, without the slashes at
its beginning. -/
theorem joinChars_eq (root : List Char) : joinChars root cs = stem root ++ (core ++ back) := by
  have hempty : (core ++ back).isEmpty = false := by simp [h.ne_nil]
  simp only [joinChars, stem, h.trimStart_eq, hempty]
  cases root.isEmpty <;> simp

end Framed

/-- A name of slashes adds nothing to a root. -/
theorem joinChars_of_slashes (root : List Char) {name : List Char} (h : ∀ c ∈ name, c = '/') :
    joinChars root name = root := by
  have hname : trimStart (fun c => c == '/') name = [] := by
    rw [← List.append_nil name, trimStart_slashes_append h, trimStart, List.dropWhile_nil]
  simp only [joinChars, hname]
  cases root <;> simp

/-- Slashes before a name are lost. -/
theorem joinChars_slashes_append (root name : List Char) {front : List Char}
    (h : ∀ c ∈ front, c = '/') : joinChars root (front ++ name) = joinChars root name := by
  simp only [joinChars, trimStart_slashes_append h]

theorem stem_of_slashes {root : List Char} (h : ∀ c ∈ root, c = '/') :
    ∀ c ∈ stem root, c = '/' := by
  have htrim : trimEnd (fun c => c == '/') root = [] := by
    rw [← List.nil_append root, trimEnd_append_of_forall fun c hc => by simp [h c hc]]
    rfl
  rw [stem, htrim]
  cases root.isEmpty <;> simp

/-- It does not matter in which order names are joined. A part that consists of slashes has no effect
wherever it stands; any other two meet at one slash. -/
theorem joinChars_assoc (root a b : List Char) :
    joinChars (joinChars root a) b = joinChars root (joinChars a b) := by
  by_cases hb : ∃ c ∈ b, c ≠ '/'
  case neg =>
    have hslashes : ∀ c ∈ b, c = '/' := by simpa using hb
    rw [joinChars_of_slashes _ hslashes, joinChars_of_slashes _ hslashes]
  obtain ⟨front', core', back', hframed'⟩ := exists_framed hb
  by_cases ha : ∃ c ∈ a, c ≠ '/'
  case neg =>
    have hslashes : ∀ c ∈ a, c = '/' := by simpa using ha
    have hb' : joinChars root (core' ++ back') = joinChars root b := by
      rw [hframed'.eq_append, joinChars_slashes_append root _ hframed'.front_slashes]
    rw [joinChars_of_slashes root hslashes, hframed'.joinChars_eq a,
      joinChars_slashes_append root _ (stem_of_slashes hslashes), hb']
  obtain ⟨front, core, back, hframed⟩ := exists_framed ha
  -- Without the slashes before it the first name is a text with the same core.
  have hbare : Framed (core ++ back) [] core back :=
    { hframed with eq_append := rfl, front_slashes := by simp }
  have hfirst : stem (joinChars root a) = stem root ++ (core ++ ['/']) := by
    rw [hframed.joinChars_eq, hbare.stem_append, List.nil_append]
  have hjoined : joinChars a b = front ++ (core ++ '/' :: (core' ++ back')) := by
    rw [hframed'.joinChars_eq, ← List.nil_append a, hframed.stem_append]
    simp
  obtain ⟨c, rest, hcore⟩ := List.exists_cons_of_ne_nil hframed.ne_nil
  have hc : c ≠ '/' := by simpa [hcore] using hframed.head_ne
  calc joinChars (joinChars root a) b
      = stem root ++ (core ++ '/' :: (core' ++ back')) := by
        rw [hframed'.joinChars_eq, hfirst]
        simp
    _ = joinChars root (core ++ '/' :: (core' ++ back')) :=
        (Destination.joinChars_eq root (by simp [hcore]) (by simp [hcore, hc])).symm
    _ = joinChars root (joinChars a b) := by
        rw [hjoined, joinChars_slashes_append root _ hframed.front_slashes]

/-! ## Last components -/

/-- What a text is called last is said by its core. -/
theorem lastComponent_append_core {x core back : List Char} (hne : core ≠ [])
    (hlast : core.getLast? ≠ some '/') (hback : ∀ c ∈ back, c = '/')
    (hx : x = [] ∨ x.getLast? = some '/') :
    lastComponent (x ++ (core ++ back)) = lastComponent core := by
  rw [lastComponent, trimEnd_append_core hne hlast hback, lastComponent, trimEnd_of_getLast?_ne hlast]
  cases hsplit : splitLast '/' core with
  | some p =>
      obtain ⟨before, last⟩ := p
      obtain ⟨rfl, hnot⟩ := eq_append_of_splitLast hsplit
      rw [← List.append_assoc, splitLast_append_cons _ hnot]
  | none =>
      have hnot : '/' ∉ core := splitLast_eq_none_iff.1 hsplit
      rcases hx with rfl | hx
      · rw [List.nil_append, hsplit]
      · obtain ⟨before, rfl⟩ := List.getLast?_eq_some_iff.1 hx
        rw [List.append_assoc, List.singleton_append, splitLast_append_cons _ hnot]

theorem getLast?_of_slashes {cs : List Char} (h : ∀ c ∈ cs, c = '/') :
    cs = [] ∨ cs.getLast? = some '/' := by
  rcases List.eq_nil_or_concat cs with rfl | ⟨init, c, rfl⟩
  · exact .inl rfl
  · exact .inr (by simp [h c (by simp)])

theorem getLast?_stem (root : List Char) : stem root = [] ∨ (stem root).getLast? = some '/' := by
  rw [stem]
  cases root.isEmpty <;> simp

theorem Framed.lastComponent_eq {cs front core back : List Char} (h : Framed cs front core back) :
    lastComponent cs = lastComponent core := by
  rw [h.eq_append]
  exact lastComponent_append_core h.ne_nil h.last_ne h.back_slashes
    (getLast?_of_slashes h.front_slashes)

/-- Below every root a name has the same last component. -/
theorem lastComponent_joinChars (root : List Char) {name : List Char} (h : ∃ c ∈ name, c ≠ '/') :
    lastComponent (joinChars root name) = lastComponent name := by
  obtain ⟨front, core, back, hframed⟩ := exists_framed h
  rw [hframed.joinChars_eq, hframed.lastComponent_eq]
  exact lastComponent_append_core hframed.ne_nil hframed.last_ne hframed.back_slashes
    (getLast?_stem root)

/-- A last component is not empty and has no slash. -/
theorem lastComponent_isPlain {cs : List Char} (h : ∃ c ∈ cs, c ≠ '/') :
    lastComponent cs ≠ [] ∧ '/' ∉ lastComponent cs := by
  obtain ⟨front, core, back, hframed⟩ := exists_framed h
  rw [hframed.lastComponent_eq, lastComponent, trimEnd_of_getLast?_ne hframed.last_ne]
  cases hsplit : splitLast '/' core with
  | some p =>
      obtain ⟨before, last⟩ := p
      obtain ⟨rfl, hnot⟩ := eq_append_of_splitLast hsplit
      refine ⟨fun hnil => hframed.last_ne ?_, hnot⟩
      simp only at hnil
      simp [hnil]
  | none => exact ⟨hframed.ne_nil, splitLast_eq_none_iff.1 hsplit⟩

/-- A last component is its own last component. -/
theorem lastComponent_lastComponent {cs : List Char} (h : ∃ c ∈ cs, c ≠ '/') :
    lastComponent (lastComponent cs) = lastComponent cs := by
  obtain ⟨-, hnot⟩ := lastComponent_isPlain h
  rw [lastComponent, trimEnd_of_getLast?_ne fun hlast => hnot (List.mem_of_getLast? hlast),
    splitLast_eq_none_iff.2 hnot]

/-- A name without a scope is the last component of the name with one, below any root or none, and it
stays the last component of every place that it is joined to. -/
theorem lastComponent_join_nameOf (root : String) (image : Image) (base : Option Path)
    (h : ∃ c ∈ (nameOf image base true).toList, c ≠ '/') :
    lastComponent (join root (nameOf image base true)).toList = (nameOf image base false).toList ∧
      lastComponent (join root (nameOf image base false)).toList =
        (nameOf image base false).toList := by
  have hname : (nameOf image base false).toList =
      lastComponent (nameOf image base true).toList := by
    simp [nameOf]
  have hplain : ∃ c ∈ lastComponent (nameOf image base true).toList, c ≠ '/' := by
    obtain ⟨hne, hnot⟩ := lastComponent_isPlain h
    obtain ⟨c, hc⟩ := List.exists_mem_of_ne_nil _ hne
    exact ⟨c, hc, fun heq => hnot (heq ▸ hc)⟩
  rw [join, join, String.toList_ofList, String.toList_ofList, hname, lastComponent_joinChars _ h,
    lastComponent_joinChars _ hplain, lastComponent_lastComponent h]
  exact ⟨rfl, rfl⟩

/-! ## The laws -/

/-- Joining is associative. If a name has another character than slashes, a root that is not empty
and the name meet at one slash: the root without those at its end, the name without those at its
beginning. The last component is that of the name, so an image that is named without a scope has the
same name below every root. -/
theorem join_laws (r a b : String) :
    join (join r a) b = join r (join a b) ∧
      ((∃ c ∈ a.toList, c ≠ '/') →
        (r ≠ "" → ∃ front rest m n, r.toList = front ++ List.replicate m '/' ∧
          front.getLast? ≠ some '/' ∧ a.toList = List.replicate n '/' ++ rest ∧
          rest.head? ≠ some '/' ∧ (join r a).toList = front ++ '/' :: rest) ∧
        lastComponent (join r a).toList = lastComponent a.toList) ∧
      ∀ (image : Image) (base : Option Path),
        (∃ c ∈ (nameOf image base true).toList, c ≠ '/') →
        lastComponent (join r (nameOf image base true)).toList =
            (nameOf image base false).toList ∧
          lastComponent (join r (nameOf image base false)).toList =
            (nameOf image base false).toList := by
  refine ⟨?_, fun ha => ⟨fun hr => ?_, ?_⟩, lastComponent_join_nameOf r⟩
  · simp only [join, String.toList_ofList, joinChars_assoc]
  · obtain ⟨slashes, core, back, hframed⟩ := exists_framed ha
    obtain ⟨rest, hrest, hslashes⟩ := exists_trimEnd (fun c => c == '/') r.toList
    have hreplicate : rest = List.replicate rest.length '/' :=
      List.eq_replicate_iff.2 ⟨rfl, fun c hc => by simpa using hslashes c hc⟩
    have hfront : slashes = List.replicate slashes.length '/' :=
      List.eq_replicate_iff.2 ⟨rfl, hframed.front_slashes⟩
    have hroot : r.toList.isEmpty = false := by simpa using hr
    refine ⟨trimEnd (fun c => c == '/') r.toList, core ++ back, rest.length, slashes.length, ?_, ?_,
      ?_, ?_, ?_⟩
    · rw [← hreplicate, ← hrest]
    · intro hlast
      simpa using of_getLast?_trimEnd hlast
    · rw [← hfront, ← hframed.eq_append]
    · obtain ⟨c, tail, hcore⟩ := List.exists_cons_of_ne_nil hframed.ne_nil
      simpa [hcore] using hframed.head_ne
    · rw [join, String.toList_ofList, hframed.joinChars_eq, stem, hroot]
      simp
  · rw [join, String.toList_ofList, lastComponent_joinChars _ ha]

/-- The laws at a root with a slash at its end and names with several of them. -/
theorem join_laws_slashes :
    (∃ c ∈ "//team/app:v1/".toList, c ≠ '/') ∧ "mirror.io/" ≠ "" ∧
      join (join "mirror.io/" "//team/app:v1/") "//" = "mirror.io/team/app:v1/" ∧
      join "mirror.io/" (join "//team/app:v1/" "//") = "mirror.io/team/app:v1/" ∧
      lastComponent (join "mirror.io/" "//team/app:v1/").toList = "app:v1".toList := by
  have ha : ∃ c ∈ "//team/app:v1/".toList, c ≠ '/' := ⟨'t', by decide, by decide⟩
  obtain ⟨hassoc, hname, -⟩ := join_laws "mirror.io/" "//team/app:v1/" "//"
  have hjoined : join (join "mirror.io/" "//team/app:v1/") "//" = "mirror.io/team/app:v1/" := by
    decide +kernel
  have hlast : lastComponent "//team/app:v1/".toList = "app:v1".toList := by decide +kernel
  exact ⟨ha, by decide, hjoined, hassoc ▸ hjoined, (hname ha).2.trans hlast⟩

end ImageSync.Destination
