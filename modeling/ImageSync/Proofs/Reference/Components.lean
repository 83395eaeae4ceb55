import ImageSync.Destination
import ImageSync.Proofs.Files.Path
import ImageSync.Proofs.Reference.RoundTrip

/-!
# Full names as paths

The full name of a reference, read as a relative path, has the host and the components of its path as
names, the last of them with tag and digest behind it. The names of two images are never such that
one path lies inside the other.

## Main definitions

* `Reference.components`: the names of the full name.

## Main statements

* `Reference.isProper_of_mem_components`: entries can have these names.
* `Reference.eq_of_prefix_components`: no image lies inside another one.
-/

namespace ImageSync.Text

variable {α β : Type} [DecidableEq α] [DecidableEq β]

theorem splitOn_map {f : α → β} (hf : ∀ a b, f a = f b → a = b) (c : α) (l : List α) :
    splitOn (f c) (l.map f) = (splitOn c l).map (List.map f) := by
  induction l with
  | nil => rfl
  | cons x l ih =>
      rw [List.map_cons, splitOn, splitOn, ih]
      by_cases hx : x = c
      · simp [hx]
      · have hfx : f x ≠ f c := fun heq => hx (hf x c heq)
        rw [if_neg hfx, if_neg hx]
        cases splitOn c l <;> rfl

/-- What follows a list and has no separator belongs to its last stretch. -/
theorem splitOn_append_of_notMem {c : α} (a : List α) {b : List α} (h : c ∉ b) :
    ∃ front last, splitOn c a = front ++ [last] ∧ splitOn c (a ++ b) = front ++ [last ++ b] := by
  induction a with
  | nil => exact ⟨[], [], rfl, by simpa using splitOn_of_notMem h⟩
  | cons x a ih =>
      obtain ⟨front, last, ha, hab⟩ := ih
      by_cases hx : x = c
      · exact ⟨[] :: front, last, by simp [splitOn, hx, ha], by simp [splitOn, hx, hab]⟩
      · cases front with
        | nil => exact ⟨[], x :: last, by simp [splitOn, hx, ha], by simp [splitOn, hx, hab]⟩
        | cons p front =>
            exact ⟨(x :: p) :: front, last, by simp [splitOn, hx, ha], by simp [splitOn, hx, hab]⟩

end ImageSync.Text

namespace ImageSync.Reference

open Text
open Text.Utf8 (Piece)

/-- The names of the full name of a reference, read as a path. -/
def components (r : Reference) : List Name := Path.segments (Path.ofString r.text)

/-- Whether a stretch of a name can only be its end: it has a colon or an at sign. -/
def IsMarked (cs : List Char) : Prop := ':' ∈ cs ∨ '@' ∈ cs

theorem isMarked_suffix {r : Reference} (h : r.isRepository = false) : IsMarked r.suffix := by
  unfold suffix IsMarked
  cases htag : r.tag with
  | some t => simp
  | none =>
      cases hdigest : r.digest with
      | some d => simp
      | none => simp [isRepository, htag, hdigest] at h

theorem not_isMarked_of_isComponent {cs : List Char} (h : isComponent cs = true) :
    ¬IsMarked cs := by
  have hchars := ComponentState.isComponentChar_of_accepts h
  rintro (hc | hc)
  · exact absurd (hchars _ hc) (by decide)
  · exact absurd (hchars _ hc) (by decide)

section WellFormed

variable {r r' : Reference}

/-- The stretches of the full name: the host, path components and a last one with what follows. -/
theorem exists_splitOn_text (h : r.WellFormed) :
    ∃ inner last, splitOn '/' r.text.toList = r.host.toList :: (inner ++ [last ++ r.suffix]) ∧
      (∀ cs ∈ inner, isComponent cs = true) ∧ isComponent last = true := by
  obtain ⟨inner, last, hpath, hall⟩ :=
    splitOn_append_of_notMem r.path.toList (slash_notMem_suffix h)
  have hvalid := h.validPath
  rw [isPath, hpath, List.all_append, Bool.and_eq_true] at hvalid
  refine ⟨inner, last, ?_, List.all_eq_true.1 hvalid.1, by simpa using hvalid.2⟩
  rw [toList_text, splitOn_append_cons, splitOn_of_notMem (slash_notMem_of_isHost h.validHost),
    behindHost_eq, hall]
  rfl

theorem ne_of_isHost {cs : List Char} (h : isHost cs = true) :
    cs ≠ [] ∧ cs ≠ ['.'] ∧ cs ≠ ['.', '.'] := by
  refine ⟨?_, ?_, ?_⟩ <;> rintro rfl <;> exact absurd h (by decide)

/-- A path component begins with a letter or a digit, so it stays a name whatever follows it. -/
theorem ne_of_isComponent_append {cs : List Char} (h : isComponent cs = true) (rest : List Char) :
    cs ++ rest ≠ [] ∧ cs ++ rest ≠ ['.'] ∧ cs ++ rest ≠ ['.', '.'] := by
  cases cs with
  | nil => exact absurd h (by decide)
  | cons c cs =>
      have hc : c ≠ '.' := by
        rintro rfl
        exact Bool.false_ne_true h
      simp [hc]

theorem nul_notMem_text (h : r.WellFormed) : '\x00' ∉ r.text.toList := by
  rw [toList_text, behindHost_eq]
  have hhost : '\x00' ∉ r.host.toList := fun hc =>
    absurd (isHostChar_of_isHost h.validHost _ hc) (by decide)
  have hpath : '\x00' ∉ r.path.toList := fun hc =>
    absurd (isPathChar_of_isPath h.validPath _ hc) (by decide)
  have hsuffix : '\x00' ∉ r.suffix := fun hc =>
    absurd (isSuffixChar_of_mem_suffix h _ hc) (by decide)
  simp [hhost, hpath, hsuffix]

/-! ## Names -/

theorem char_injective : ∀ a b : Char, Piece.char a = Piece.char b → a = b :=
  fun _ _ h => Piece.char.inj h

theorem map_char_injective : ∀ a b : List Char, a.map Piece.char = b.map Piece.char → a = b := by
  intro a b h
  have hback : ∀ l : List Char, (l.map Piece.char).map Piece.shown = l := fun l => by
    simp [List.map_map, Function.comp_def]
  rw [← hback a, h, hback b]

theorem isProper_of_chars {cs : List Char} (hne : cs ≠ [] ∧ cs ≠ ['.'] ∧ cs ≠ ['.', '.'])
    (hslash : '/' ∉ cs) (hnul : '\x00' ∉ cs) : Path.IsProper (cs.map Piece.char) := by
  have hmem : ∀ c, c ∉ cs → Piece.char c ∉ cs.map Piece.char := by
    intro c hc hmap
    obtain ⟨d, hd, heq⟩ := List.mem_map.1 hmap
    exact hc (char_injective d c heq ▸ hd)
  constructor
  case ne_nil => simpa using hne.1
  case slash_notMem => exact hmem '/' hslash
  case nul_notMem => exact hmem '\x00' hnul
  case ne_here => exact fun heq => hne.2.1 (map_char_injective cs ['.'] heq)
  case ne_up => exact fun heq => hne.2.2 (map_char_injective cs ['.', '.'] heq)

/-- The stretches of the full name are names that entries can have. -/
theorem isProper_of_mem_splitOn_text (h : r.WellFormed) :
    ∀ cs ∈ splitOn '/' r.text.toList, Path.IsProper (cs.map Piece.char) := by
  obtain ⟨inner, last, hsplit, hinner, hlast⟩ := exists_splitOn_text h
  have hne : ∀ cs ∈ splitOn '/' r.text.toList, cs ≠ [] ∧ cs ≠ ['.'] ∧ cs ≠ ['.', '.'] := by
    intro cs hcs
    rw [hsplit] at hcs
    rcases List.mem_cons.1 hcs with rfl | hcs
    · exact ne_of_isHost h.validHost
    · rcases List.mem_append.1 hcs with hcs | hcs
      · simpa using ne_of_isComponent_append (hinner cs hcs) []
      · rw [List.mem_singleton.1 hcs]
        exact ne_of_isComponent_append hlast r.suffix
  intro cs hcs
  refine isProper_of_chars (hne cs hcs) (notMem_of_mem_splitOn hcs) fun hc => ?_
  exact nul_notMem_text h (mem_of_mem_splitOn hcs hc)

/-- Nothing is left out of the full name when it is read as a path. -/
theorem components_eq (h : r.WellFormed) :
    r.components = (splitOn '/' r.text.toList).map (List.map Piece.char) := by
  have hmap : splitOn Path.slash (Path.ofString r.text) =
      (splitOn '/' r.text.toList).map (List.map Piece.char) :=
    splitOn_map char_injective '/' r.text.toList
  rw [components, Path.segments, hmap, List.filter_eq_self]
  intro n hn
  obtain ⟨cs, hcs, rfl⟩ := List.mem_map.1 hn
  simpa using (isProper_of_mem_splitOn_text h cs hcs).ne_nil

theorem isProper_of_mem_components (h : r.WellFormed) : ∀ n ∈ r.components, Path.IsProper n := by
  intro n hn
  rw [components_eq h] at hn
  obtain ⟨cs, hcs, rfl⟩ := List.mem_map.1 hn
  exact isProper_of_mem_splitOn_text h cs hcs

theorem components_ne_nil (h : r.WellFormed) : r.components ≠ [] := by
  simpa [components_eq h] using splitOn_ne_nil '/' r.text.toList

theorem upName_notMem_components (h : r.WellFormed) : Path.upName ∉ r.components :=
  fun hmem => (isProper_of_mem_components h _ hmem).ne_up rfl

/-- The names in order, with slashes between, are the full name. -/
theorem joinWith_components (h : r.WellFormed) :
    joinWith Path.slash r.components = Path.ofString r.text := by
  have hmap : splitOn Path.slash (Path.ofString r.text) =
      (splitOn '/' r.text.toList).map (List.map Piece.char) :=
    splitOn_map char_injective '/' r.text.toList
  rw [components_eq h, ← hmap, joinWith_splitOn]

/-- The stretches of the full name of an image: none of those between the first and the last is
marked, the last one is. -/
theorem exists_splitOn_image (h : r.WellFormed) (himage : r.isRepository = false) :
    ∃ inner last, splitOn '/' r.text.toList = r.host.toList :: (inner ++ [last]) ∧
      (∀ cs ∈ inner, ¬IsMarked cs) ∧ IsMarked last := by
  obtain ⟨inner, last, hsplit, hinner, hlast⟩ := exists_splitOn_text h
  have hmarked : IsMarked (last ++ r.suffix) :=
    (isMarked_suffix himage).imp (List.mem_append_right last) (List.mem_append_right last)
  exact ⟨inner, last ++ r.suffix, hsplit,
    fun cs hcs => not_isMarked_of_isComponent (hinner cs hcs), hmarked⟩

/-- Two images of which one lies inside the other are one image. -/
theorem eq_of_prefix_components (h : r.WellFormed) (himage : r.isRepository = false)
    (h' : r'.WellFormed) (himage' : r'.isRepository = false)
    (hpre : r.components <+: r'.components) : r = r' := by
  obtain ⟨inner, last, hsplit, -, hlast⟩ := exists_splitOn_image h himage
  obtain ⟨inner', last', hsplit', hinner', -⟩ := exists_splitOn_image h' himage'
  rw [components_eq h, components_eq h', hsplit, hsplit'] at hpre
  have hchars : r.host.toList :: (inner ++ [last]) <+: r'.host.toList :: (inner' ++ [last']) := by
    obtain ⟨rest, hrest⟩ := hpre
    have hback := congrArg (List.map (List.map Piece.shown)) hrest
    have hid : ∀ l : List (List Char),
        (l.map (List.map Piece.char)).map (List.map Piece.shown) = l := fun l => by
      simp [List.map_map, Function.comp_def]
    rw [List.map_append, hid, hid] at hback
    exact ⟨_, hback⟩
  have hall : r.host.toList :: (inner ++ [last]) = r'.host.toList :: (inner' ++ [last']) := by
    obtain ⟨hhost, htail⟩ := List.cons_prefix_cons.1 hchars
    rcases List.prefix_concat_iff.1 htail with heq | hinside
    · rw [hhost, heq]
    · -- the last name of `r` is marked, those of `r'` before its last are not
      have hmem : last ∈ inner' := hinside.subset (by simp)
      exact absurd hlast (hinner' last hmem)
  have htext : r.text = r'.text := by
    rw [← String.toList_inj, ← joinWith_splitOn '/' r.text.toList, hsplit, hall, ← hsplit',
      joinWith_splitOn]
  have hread := parse_text h
  rw [htext, parse_text h'] at hread
  exact (Except.ok.inj hread).symm

/-- The last component of the full name is what stands behind its last slash. -/
theorem lastComponent_text (h : r.WellFormed) :
    (splitOn '/' r.text.toList).getLast? =
      some (Destination.lastComponent r.text.toList) := by
  obtain ⟨inner, last, hsplit, -, hcomponent⟩ := exists_splitOn_text h
  have hslash : '/' ∉ last ++ r.suffix :=
    notMem_of_mem_splitOn (l := r.text.toList) (by simp [hsplit])
  obtain ⟨front, htext⟩ : ∃ front, r.text.toList = front ++ '/' :: (last ++ r.suffix) := by
    refine ⟨joinWith '/' (r.host.toList :: inner), ?_⟩
    rw [← joinWith_concat '/' (by simp), List.cons_append, ← hsplit, joinWith_splitOn]
  have hlast : splitLast '/' r.text.toList = some (front, last ++ r.suffix) := by
    rw [htext]
    exact splitLast_append_cons front hslash
  have htrim : trimEnd (fun c => c == '/') r.text.toList = r.text.toList := by
    obtain ⟨init, c, hinit⟩ := (List.eq_nil_or_concat (last ++ r.suffix)).resolve_left
      (ne_of_isComponent_append hcomponent r.suffix).1
    have hc : c ≠ '/' := fun hc => hslash (by simp [hinit, hc])
    rw [htext, hinit, List.concat_eq_append, trimEnd]
    simp [hc]
  rw [Destination.lastComponent, htrim, hsplit, ← List.cons_append, List.getLast?_concat]
  simp only [hlast]

end WellFormed

end ImageSync.Reference
