import ImageSync.Proofs.Text.Separated
import ImageSync.Proofs.Text.Split
import ImageSync.Registry.Challenge
import Mathlib.Data.Bool.AllAny
import Mathlib.Data.List.Nodup

/-!
# Reading challenges

A challenge is written as a scheme and, behind a space, a list of parameters. A value stands in
quotes or is bare. The search for parameters takes each value as a whole, so nothing inside a value
is taken for a parameter, and what is read is what was written.

## Main definitions

* `Challenge.IsWritten value spelled`: how a value can be written.
* `Challenge.Parameter`: a parameter as it is written in a challenge.
* `Challenge.Gives ps name value`: what the parameters say under a name.
* `Challenge.firstWord header`: the scheme of a challenge.

## Main statements

* `Challenge.splitValue_append`: a written value is read as a whole.
* `Challenge.parameters_of_separated`: the parameters of a challenge are read as they were written.
* `Challenge.parse_of_written`: the challenge of a header.
-/

namespace ImageSync

open Text

namespace Challenge

/-- How a value can be written: in quotes, or bare if nothing in it ends a bare value and it does
not begin with a quote. -/
inductive IsWritten (value : List Char) : List Char → Prop
  | quoted (h : '"' ∉ value) : IsWritten value ('"' :: (value ++ ['"']))
  | bare (h : ∀ c ∈ value, c ≠ ',' ∧ isBlank c = false) (hquote : value.head? ≠ some '"') :
      IsWritten value value

/-- A parameter as it is written in a challenge. -/
structure Parameter where
  name : String
  value : String
  spelled : List Char
  name_ne_empty : name ≠ ""
  isWord_of_mem : ∀ c ∈ name.toList, isWord c = true
  isWritten : IsWritten value.toList spelled

namespace Parameter

/-- A parameter in a challenge. -/
def text (p : Parameter) : List Char := p.name.toList ++ '=' :: p.spelled

/-- The name without the case of its letters. -/
def key (p : Parameter) : List Char := lower p.name.toList

/-- What is read of a parameter. -/
def pair (p : Parameter) : List Char × List Char := (p.name.toList, p.value.toList)

end Parameter

/-- What the parameters say under a name: a value that one of them has, or nothing. -/
inductive Gives (ps : List Parameter) (name : String) : Option String → Prop
  | some {p : Parameter} (h : p ∈ ps) (hkey : p.key = name.toList) : Gives ps name (some p.value)
  | none (h : ∀ p ∈ ps, p.key ≠ name.toList) : Gives ps name none

/-! ## One parameter -/

/-- What separates parameters holds no words. -/
theorem isWord_eq_false_of_separator {c : Char} (h : c = ',' ∨ isBlank c = true) :
    isWord c = false := by
  rcases h with rfl | h
  · decide
  · exact forall_of_isBlank (P := fun c => isWord c = false) (by decide +kernel) h

/-- What separates parameters ends a bare value. -/
theorem isBare_eq_false_of_separator {c : Char} (h : c = ',' ∨ isBlank c = true) :
    isBare c = false := by
  rcases h with rfl | h
  · decide
  · simp [isBare, h]

/-- A value is read as it was written, and no further. -/
theorem splitValue_append {value spelled rest : List Char} (h : IsWritten value spelled)
    (hrest : ∀ c, rest.head? = some c → isBare c = false) :
    splitValue (spelled ++ rest) = (value, rest) := by
  cases h with
  | quoted h =>
      rw [List.cons_append, List.append_assoc, List.singleton_append, splitValue,
        splitFirst_append_cons rest h]
  | bare h hquote =>
      obtain ⟨htake, hdrop⟩ := takeWhile_dropWhile_append (p := isBare)
        (fun c (hc : c ∈ value) => by simp [isBare, h c hc]) hrest
      unfold splitValue
      split
      · next behind heq =>
        -- A quote would be the first character of the value, or of what is behind an empty one.
        exfalso
        cases value with
        | nil =>
            rw [List.nil_append] at heq
            have hclosed : isBare '"' = false := hrest '"' (by rw [heq, List.head?_cons])
            revert hclosed
            decide
        | cons c value =>
            cases heq
            exact hquote rfl
      · rw [htake, hdrop]

/-- What is no word is passed over. -/
theorem parameters_append {a : List Char} (h : ∀ c ∈ a, isWord c = false) (b : List Char) :
    parameters (a ++ b) = parameters b := by
  have hdrop : ((a ++ b).dropWhile fun c => !isWord c) = b.dropWhile fun c => !isWord c :=
    List.dropWhile_append_of_pos fun c hc => by simp [h c hc]
  rw [parameters.eq_def (a ++ b), parameters.eq_def b, hdrop]

/-- A word with an equals sign behind it is a parameter. -/
theorem parameters_append_cons {name : List Char} (hne : name ≠ [])
    (hname : ∀ c ∈ name, isWord c = true) (behind : List Char) :
    parameters (name ++ '=' :: behind) =
      (name, (splitValue behind).1) :: parameters (splitValue behind).2 := by
  obtain ⟨c, name, rfl⟩ := List.exists_cons_of_ne_nil hne
  obtain ⟨hc, hname⟩ := List.forall_mem_cons.1 hname
  have hstart : ((c :: name ++ '=' :: behind).dropWhile fun c => !isWord c) =
      c :: (name ++ '=' :: behind) := List.dropWhile_cons_of_neg (by simp [hc])
  obtain ⟨htake, hdrop⟩ := takeWhile_dropWhile_append (b := '=' :: behind) hname
    fun d hd => by cases hd; decide
  rw [parameters]
  split
  · next hnil => cases hstart.symm.trans hnil
  · next d rest hcons =>
    cases hstart.symm.trans hcons
    simp only
    split
    · next value hvalue =>
      cases hdrop.symm.trans hvalue
      rw [htake]
    · next hother => exact absurd hdrop (hother behind)

/-! ## Several parameters -/

/-- The parameters of a challenge are read as they were written. -/
theorem parameters_of_separated {ps : List Parameter} {text : List Char}
    (h : CommaSeparated (ps.map Parameter.text) text) :
    parameters text = ps.map Parameter.pair := by
  induction ps generalizing text with
  | nil =>
      rw [h.eq_nil, parameters]
      rfl
  | cons p ps ih =>
      obtain ⟨separator, rest, rfl, hseparator, hend, hrest⟩ := h.exists_of_cons
      have hne : p.name.toList ≠ [] := by simpa using p.name_ne_empty
      have hclosed : ∀ c, (separator ++ rest).head? = some c → isBare c = false := by
        intro c hc
        cases separator with
        | nil => simp [hend rfl] at hc
        | cons d separator =>
            cases hc
            exact isBare_eq_false_of_separator (hseparator _ List.mem_cons_self)
      rw [Parameter.text, List.append_assoc, List.cons_append,
        parameters_append_cons hne p.isWord_of_mem, splitValue_append p.isWritten hclosed,
        parameters_append fun c hc => isWord_eq_false_of_separator (hseparator c hc), ih hrest]
      rfl

/-- What is read under a name is what the parameters say, if no two of them have one name. -/
theorem value?_of_gives {ps : List Parameter} {name : String} {value : Option String}
    (hnames : (ps.map Parameter.key).Nodup) (h : Gives ps name value) :
    value? name (ps.map Parameter.pair) = value := by
  rw [value?, ← List.map_reverse, List.find?_map, Option.map_map]
  cases hfind : ps.reverse.find? ((fun q => decide (lower q.1 = name.toList)) ∘ Parameter.pair) with
  | none =>
      cases h with
      | none => rfl
      | @some p hp hkey =>
          have hother := List.find?_eq_none.1 hfind p (List.mem_reverse.2 hp)
          exact absurd (decide_eq_true hkey) hother
  | some q =>
      have hq : q ∈ ps := List.mem_reverse.1 (List.mem_of_find?_eq_some hfind)
      have hqkey : q.key = name.toList := of_decide_eq_true (List.find?_some hfind :)
      cases h with
      | none hother => exact absurd hqkey (hother q hq)
      | @some p hp hkey =>
          obtain rfl := List.inj_on_of_nodup_map hnames hq hp (hqkey.trans hkey.symm)
          simp [Parameter.pair]

/-! ## Headers -/

theorem Parameter.text_ne_nil (p : Parameter) : p.text ≠ [] := by
  simp [text]

/-- A parameter does not end in white space. -/
theorem Parameter.isBlank_of_getLast? (p : Parameter) {c : Char} (h : p.text.getLast? = some c) :
    isBlank c = false := by
  have hbehind : ('=' :: p.spelled).getLast? = some c := by
    rwa [text, List.getLast?_append_of_ne_nil _ (List.cons_ne_nil _ _)] at h
  have hspelled := p.isWritten
  generalize p.spelled = spelled at hspelled hbehind
  cases hspelled with
  | quoted =>
      rw [← List.cons_append, ← List.cons_append, List.getLast?_concat] at hbehind
      cases hbehind
      decide
  | bare hvalue =>
      rcases List.mem_cons.1 (List.mem_of_getLast? hbehind) with rfl | hc
      · decide
      · exact (hvalue c hc).2

/-- The scheme of a challenge: what stands before its first space. -/
def firstWord (header : String) : List Char := (trim isBlank header.toList).takeWhile (· ≠ ' ')

/-- A scheme that is not known is refused, and basic challenges need no parameters. -/
theorem parse_of_firstWord {header : String} (h : lower (firstWord header) ≠ "bearer".toList) :
    parse header = if lower (firstWord header) = "basic".toList then .ok .basic
      else .error (.badChallenge (String.ofList (trim isBlank header.toList))) := by
  rw [firstWord, ← fst_splitFirst_getD] at h ⊢
  simp only [parse, if_neg h]

/-- A header is cut behind its scheme, and nothing of its parameters is trimmed. -/
theorem splitFirst_trim_of_written {scheme text : List Char} (hne : scheme ≠ [])
    (hscheme : ∀ c ∈ scheme, isBlank c = false)
    (htext : ∀ c, text.getLast? = some c → isBlank c = false) :
    (splitFirst ' ' (trim isBlank (scheme ++ ' ' :: text))).getD
      (trim isBlank (scheme ++ ' ' :: text), []) = (scheme, text) := by
  have hspace : ' ' ∉ scheme := fun h => absurd (hscheme ' ' h) (by decide)
  have hstart : trimStart isBlank (scheme ++ ' ' :: text) = scheme ++ ' ' :: text := by
    obtain ⟨c, scheme, rfl⟩ := List.exists_cons_of_ne_nil hne
    exact List.dropWhile_cons_of_neg (by simp [hscheme c List.mem_cons_self])
  rw [trim, hstart]
  cases text with
  | nil =>
      have hword : trimEnd isBlank scheme = scheme :=
        trimEnd_eq_self fun c hc => hscheme c (List.mem_of_getLast? hc)
      have hend : ∀ c ∈ [' '], isBlank c = true := List.all_eq_true.1 (by decide)
      rw [trimEnd_append_of_forall hend, hword, splitFirst_eq_none_iff.2 hspace, Option.getD_none]
  | cons c text =>
      have hwhole : trimEnd isBlank (scheme ++ ' ' :: c :: text) = scheme ++ ' ' :: c :: text :=
        trimEnd_eq_self fun d hd => htext d (by
          rwa [List.append_cons, List.getLast?_append_of_ne_nil _ (List.cons_ne_nil c text)] at hd)
      rw [hwhole, splitFirst_append_cons _ hspace, Option.getD_some]

/-- What is written behind a scheme and a space is read as it was written. A bearer challenge has
the realm, the service and the scope that the parameters give, and none without a realm; a basic
challenge is one with any parameters. No other scheme is known. -/
theorem parse_of_written (scheme : String) (ps : List Parameter) (text : List Char)
    (header : String) (hscheme : scheme ≠ "" ∧ ∀ c ∈ scheme.toList, isBlank c = false)
    (htext : CommaSeparated (ps.map Parameter.text) text)
    (hnames : (ps.map Parameter.key).Nodup)
    (hheader : header.toList = scheme.toList ++ ' ' :: text) :
    firstWord header = scheme.toList ∧
    (lower scheme.toList = "bearer".toList →
      (∀ realm service scope, realm ≠ "" → Gives ps "realm" (some realm) →
        Gives ps "service" service → Gives ps "scope" scope →
        parse header = .ok (.bearer realm service scope)) ∧
      (Gives ps "realm" none ∨ Gives ps "realm" (some "") →
        parse header = .error (.badChallenge (String.ofList (trim isBlank header.toList))))) ∧
    (lower scheme.toList = "basic".toList → parse header = .ok .basic) ∧
    ∀ other : String, lower (firstWord other) ≠ "bearer".toList →
      lower (firstWord other) ≠ "basic".toList →
      parse other = .error (.badChallenge (String.ofList (trim isBlank other.toList))) := by
  obtain ⟨hne, hblank⟩ := hscheme
  have hlast : ∀ c, text.getLast? = some c → isBlank c = false := fun c hc =>
    htext.of_getLast? (by simp [Parameter.text_ne_nil])
      (fun item hitem c hc => by
        obtain ⟨p, -, rfl⟩ := List.mem_map.1 hitem
        exact p.isBlank_of_getLast? hc) hc
  have hsplit := splitFirst_trim_of_written (by simpa using hne) hblank hlast
  rw [← hheader] at hsplit
  have hfirst : firstWord header = scheme.toList := by
    rw [firstWord, ← fst_splitFirst_getD, hsplit]
  have hparameters := parameters_of_separated htext
  refine ⟨hfirst, fun hbearer => ⟨?_, ?_⟩, fun hbasic => ?_, fun other hbearer hbasic => ?_⟩
  · intro realm service scope hrealm hgives hservice hscope
    simp only [parse, hsplit, if_pos hbearer, hparameters, value?_of_gives hnames hgives,
      value?_of_gives hnames hservice, value?_of_gives hnames hscope, if_neg hrealm]
  · rintro (hgives | hgives) <;>
      simp only [parse, hsplit, if_pos hbearer, hparameters, value?_of_gives hnames hgives, if_true]
  · have hother : lower scheme.toList ≠ "bearer".toList := by
      rw [hbasic]
      decide
    rw [← hfirst] at hother hbasic
    rw [parse_of_firstWord hother, if_pos hbasic]
  · rw [parse_of_firstWord hbearer, if_neg hbasic]

namespace Written

/-- A realm with a comma, a space and what looks like a parameter. -/
def realm : Parameter where
  name := "Realm"
  value := "https://quay.io/v2/auth?service=b, c"
  spelled := '"' :: ("https://quay.io/v2/auth?service=b, c".toList ++ ['"'])
  name_ne_empty := by decide
  isWord_of_mem := List.all_eq_true.1 (by decide +kernel)
  isWritten := .quoted (by decide)

def service : Parameter where
  name := "SERVICE"
  value := "quay.io"
  spelled := "quay.io".toList
  name_ne_empty := by decide
  isWord_of_mem := List.all_eq_true.1 (by decide +kernel)
  isWritten := .bare (List.all_iff_forall_prop.1 (by decide)) (by decide)

/-- The list of the parameters. -/
def text : List Char := realm.text ++ (" ,".toList ++ service.text)

/-- A bearer challenge with the parameters. -/
def header : String := String.ofList ("beaRER".toList ++ ' ' :: text)

end Written

open Written in
/-- A challenge with a realm and a service. -/
theorem parse_of_written_bearer :
    ("beaRER" ≠ "" ∧ ∀ c ∈ "beaRER".toList, isBlank c = false) ∧
      CommaSeparated ([realm, service].map Parameter.text) text ∧
      ([realm, service].map Parameter.key).Nodup ∧
      header.toList = "beaRER".toList ++ ' ' :: text ∧
      parse header = .ok (.bearer realm.value (some service.value) none) := by
  have hscheme : "beaRER" ≠ "" ∧ ∀ c ∈ "beaRER".toList, isBlank c = false :=
    ⟨by decide, List.all_iff_forall_prop.1 (by decide)⟩
  have htext : CommaSeparated ([realm, service].map Parameter.text) text :=
    .cons ⟨[' '], [], rfl, List.all_eq_true.1 (by decide), by simp⟩ (.singleton _)
  have hnames : ([realm, service].map Parameter.key).Nodup := by decide
  have hheader : header.toList = "beaRER".toList ++ ' ' :: text := String.toList_ofList
  obtain ⟨-, hbearer, -⟩ :=
    parse_of_written "beaRER" [realm, service] text header hscheme htext hnames hheader
  exact ⟨hscheme, htext, hnames, hheader, (hbearer (by decide)).1 realm.value (some service.value)
    none (by decide) (.some (by simp) (by decide)) (.some (by simp) (by decide))
    (.none (by decide))⟩

end Challenge

end ImageSync
