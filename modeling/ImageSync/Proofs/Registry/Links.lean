import ImageSync.Proofs.Text.Separated
import ImageSync.Proofs.Text.Split
import ImageSync.Registry.Link

/-!
# Headers with several links

A header lists links, each with a target and a relation. Only the beginning of a relation is
compared with the word `next`, so of the links in a header the first one counts whose relation
begins so. As a rule this is the first one with the relation `next`; a link before it with a longer
relation, or with a bracket in its relation, makes an exception.

## Main definitions

* `Link.Entry`: a link as it is written in a header.
* `Link.Entry.beginsNext e`: whether the relation of a link begins with the word `next`.

## Main statements

* `Link.nextTarget?_of_separated`: the first link whose relation begins so counts.
* `Link.nextPage?_of_separated`: the next page of a header with several links.
* `Link.nextPage?_of_longer_relation`: two headers in which the link to the next page is not taken.
-/

namespace ImageSync

open Text

/-- A link as it is written in a header: its target and its relation. -/
structure Link.Entry where
  target : String
  relation : String
  target_ne_empty : target ≠ ""
  notMem_target : '<' ∉ target.toList ∧ '>' ∉ target.toList
  notMem_relation : '"' ∉ relation.toList

namespace Link

namespace Entry

/-- A link in a header. -/
def text (e : Entry) : List Char :=
  '<' :: (e.target.toList ++ '>' :: ("; rel=\"".toList ++ (e.relation.toList ++ ['"'])))

/-- Whether the relation of a link begins with the word `next`. -/
def beginsNext (e : Entry) : Bool := "next".toList.isPrefixOf e.relation.toList

theorem beginsNext_of_relation_eq {e : Entry} (h : e.relation = "next") : e.beginsNext = true := by
  rw [beginsNext, h]
  decide

end Entry

/-! ## One link -/

/-- A relation in quotes counts if it begins with the word `next`. -/
theorem saysNext_relation (relation rest : List Char) :
    saysNext ("; rel=\"".toList ++ (relation ++ '"' :: rest)) =
      "next".toList.isPrefixOf relation :=
  isPrefixOf_append_cons (by decide) relation rest

/-- No link begins where there is no bracket. -/
theorem nextTarget?_append_of_notMem {a : List Char} (h : '<' ∉ a) (b : List Char) :
    nextTarget? (a ++ b) = nextTarget? b := by
  induction a with
  | nil => rfl
  | cons c a ih =>
      simp only [List.mem_cons, not_or] at h
      simp [nextTarget?, Ne.symm h.1, ih h.2]

/-- What a link says of itself. -/
theorem nextTarget?_text_append (e : Entry) (rest : List Char) :
    nextTarget? (e.text ++ rest) = if e.beginsNext then some e.target.toList
      else nextTarget? (e.relation.toList ++ '"' :: rest) := by
  have hne : e.target.toList.isEmpty = false := by simpa using e.target_ne_empty
  have hsplit := splitFirst_append_cons
    ("; rel=\"".toList ++ (e.relation.toList ++ '"' :: rest)) e.notMem_target.2
  have hsays : saysNext ("; rel=\"".toList ++ (e.relation.toList ++ '"' :: rest)) = e.beginsNext :=
    saysNext_relation e.relation.toList rest
  have htext : e.text ++ rest = '<' :: (e.target.toList ++ '>' ::
      ("; rel=\"".toList ++ (e.relation.toList ++ '"' :: rest))) := by
    simp [Entry.text]
  rw [htext, nextTarget?, if_pos rfl, hsplit]
  simp only [hne, hsays, Bool.not_false, Bool.true_and]
  split
  · rfl
  · have hmark : '<' ∉ '>' :: "; rel=\"".toList := by decide
    rw [nextTarget?_append_of_notMem e.notMem_target.1, ← List.cons_append,
      nextTarget?_append_of_notMem hmark]

/-! ## Several links -/

/-- The first link whose relation begins with the word `next` counts, if there is no bracket in the
relations before it. -/
theorem nextTarget?_of_separated {es : List Entry} {header : List Char}
    (hheader : CommaSeparated (es.map Entry.text) header)
    (hrelation : ∀ e ∈ es.takeWhile fun e => !e.beginsNext, '<' ∉ e.relation.toList) :
    nextTarget? header = (es.find? Entry.beginsNext).map fun e => e.target.toList := by
  induction es generalizing header with
  | nil =>
      rw [hheader.eq_nil]
      rfl
  | cons e es ih =>
      obtain ⟨separator, rest, rfl, hseparator, -, hrest⟩ := hheader.exists_of_cons
      rw [nextTarget?_text_append]
      cases hnext : e.beginsNext with
      | true => simp [hnext]
      | false =>
          rw [List.takeWhile_cons_of_pos (by simp [hnext])] at hrelation
          have hplain : '<' ∉ e.relation.toList := hrelation e List.mem_cons_self
          have hbetween : '<' ∉ '"' :: separator := by
            intro hmem
            rcases List.mem_cons.1 hmem with hquote | hmem
            · exact absurd hquote (by decide)
            · rcases hseparator _ hmem with hcomma | hblank
              · exact absurd hcomma (by decide)
              · exact absurd hblank (by decide)
          rw [if_neg Bool.false_ne_true, nextTarget?_append_of_notMem hplain, ← List.cons_append,
            nextTarget?_append_of_notMem hbetween, List.find?_cons_of_neg (by simp [hnext])]
          exact ih hrest fun e' he' => hrelation e' (List.mem_cons_of_mem e he')

/-- The link to the next page, if the links before it are of another kind. -/
theorem find?_beginsNext_eq {es : List Entry}
    (h : ∀ e ∈ es.takeWhile fun e => e.relation ≠ "next", e.beginsNext = false) :
    es.find? Entry.beginsNext = es.find? (·.relation = "next") ∧
      (es.takeWhile fun e => !e.beginsNext) = es.takeWhile fun e => e.relation ≠ "next" := by
  induction es with
  | nil => exact ⟨rfl, rfl⟩
  | cons e es ih =>
      by_cases hrelation : e.relation = "next"
      · simp [hrelation, Entry.beginsNext_of_relation_eq hrelation]
      · rw [List.takeWhile_cons_of_pos (by simpa using hrelation)] at h
        have hnext : e.beginsNext = false := h e List.mem_cons_self
        obtain ⟨hfind, htake⟩ := ih fun e' he' => h e' (List.mem_cons_of_mem e he')
        simp [hrelation, hnext, hfind, htake]

/-- Of the links in a header the first one names the next page whose relation begins with the word
`next`, if there is no bracket in the relations before it. This is the first link with the relation
`next`, if no relation before it is longer or has a bracket. -/
theorem nextPage?_of_separated (base : Uri) (header : String) (es : List Entry)
    (hheader : CommaSeparated (es.map Entry.text) header.toList) :
    ((∀ e ∈ es.takeWhile fun e => !e.beginsNext, '<' ∉ e.relation.toList) →
      nextPage? base header =
        (es.find? Entry.beginsNext).bind fun e => (base.join e.target).toOption) ∧
    ((∀ e ∈ es.takeWhile fun e => e.relation ≠ "next",
        e.beginsNext = false ∧ '<' ∉ e.relation.toList) →
      nextPage? base header =
        (es.find? (·.relation = "next")).bind fun e => (base.join e.target).toOption) := by
  have hbegins (hrelation : ∀ e ∈ es.takeWhile fun e => !e.beginsNext, '<' ∉ e.relation.toList) :
      nextPage? base header =
        (es.find? Entry.beginsNext).bind fun e => (base.join e.target).toOption := by
    rw [nextPage?, nextTarget?_of_separated hheader hrelation, Option.bind_map]
    simp only [Function.comp_def, String.ofList_toList]
  refine ⟨hbegins, fun hearlier => ?_⟩
  obtain ⟨hfind, htake⟩ := find?_beginsNext_eq fun e he => (hearlier e he).1
  rw [← hfind]
  exact hbegins fun e he => (hearlier e (htake ▸ he)).2

namespace Listed

/-- A page of a list. -/
def page : Uri where
  scheme := "http"
  host := some (.name "quay.io")
  path := .segments ["v2", "foo", "bar", "tags", "list"]

def previous : Entry := ⟨"/a", "prev", by decide, by decide, by decide⟩

def longer : Entry := ⟨"/a", "nextpage", by decide, by decide, by decide⟩

def bracketed : Entry := ⟨"/a", "a<b", by decide, by decide, by decide⟩

def next : Entry := ⟨"/b", "next", by decide, by decide, by decide⟩

/-- The address of the target of the link to the next page. -/
def nextAddress : Uri := { page with path := .segments ["b"] }

/-- The header with a link and the link to the next page. -/
def header (e : Entry) : String := String.ofList (e.text ++ ", ".toList ++ next.text)

theorem commaSeparated (e : Entry) :
    CommaSeparated ([e, next].map Entry.text) (header e).toList := by
  have hseparator : IsSeparator ", ".toList :=
    ⟨[], [' '], rfl, by simp, List.all_eq_true.1 (by decide)⟩
  rw [header, String.toList_ofList, List.append_assoc]
  exact .cons hseparator (.singleton _)

end Listed

open Listed in
/-- Behind a link to the previous page the link to the next page counts. -/
theorem nextPage?_of_previous :
    CommaSeparated ([previous, next].map Entry.text) (header previous).toList ∧
      (∀ e ∈ [previous, next].takeWhile fun e => e.relation ≠ "next",
        e.beginsNext = false ∧ '<' ∉ e.relation.toList) ∧
      nextPage? page (header previous) = some nextAddress := by
  have hearlier : ∀ e ∈ [previous, next].takeWhile fun e => e.relation ≠ "next",
      e.beginsNext = false ∧ '<' ∉ e.relation.toList := by decide
  refine ⟨commaSeparated previous, hearlier, ?_⟩
  rw [(nextPage?_of_separated page (header previous) [previous, next]
    (commaSeparated previous)).2 hearlier]
  decide +kernel

open Listed in
/-- Behind a link with a longer relation, and behind one with a bracket in its relation, the link to
the next page does not count. -/
theorem nextPage?_of_longer_relation :
    (page.join next.target).toOption = some nextAddress ∧
    (CommaSeparated ([longer, next].map Entry.text) (header longer).toList ∧
      [longer, next].find? (fun e => e.relation = "next") = some next ∧
      nextPage? page (header longer) = some { page with path := .segments ["a"] }) ∧
    CommaSeparated ([bracketed, next].map Entry.text) (header bracketed).toList ∧
      [bracketed, next].find? (fun e => e.relation = "next") = some next ∧
      nextPage? page (header bracketed) ≠ some nextAddress := by
  refine ⟨by decide +kernel, ⟨commaSeparated longer, rfl, by decide +kernel⟩,
    commaSeparated bracketed, rfl, by decide +kernel⟩

end Link

end ImageSync
