import ImageSync.Registry.Error
import ImageSync.Text.Blank
import ImageSync.Text.Case
import ImageSync.Text.Category
import ImageSync.Text.Split

/-!
# Challenges

A registry that wants to know who asks answers with a challenge: a scheme and parameters. Bearer
challenges name the place that gives out tokens, the realm; basic challenges ask for user name and
password.

## Main definitions

* `parameters cs`: the parameters of a challenge, in order.
* `Challenge.parse header`: the challenge of a header.
-/

namespace ImageSync

open Text

/-- What a registry asks for before it answers. -/
inductive Challenge where
  /-- A token from the realm. -/
  | bearer (realm : String) (service scope : Option String)
  /-- User name and password. -/
  | basic
deriving DecidableEq, Repr

namespace Challenge

/-- Whether a bare value goes on with this character. -/
def isBare (c : Char) : Bool := c ≠ ',' && !isBlank c

/-- The value at the beginning of a text, without its quotes, and what follows it. A quote that is
not closed is a part of a bare value. -/
def splitValue (cs : List Char) : List Char × List Char :=
  match cs with
  | '"' :: rest =>
    match splitFirst '"' rest with
    | some p => p
    | none => (cs.takeWhile isBare, cs.dropWhile isBare)
  | _ => (cs.takeWhile isBare, cs.dropWhile isBare)

theorem length_splitValue_le (cs : List Char) : (splitValue cs).2.length ≤ cs.length := by
  have hbare : ∀ l : List Char, (l.dropWhile isBare).length ≤ l.length :=
    fun l => (List.dropWhile_sublist _).length_le
  unfold splitValue
  split
  · next rest =>
    split
    · next p h =>
      have := (eq_append_of_splitFirst (a := p.1) (b := p.2) h).1
      rw [this]
      simp
      omega
    · exact hbare _
  · exact hbare _

/-- The parameters in a text, in order: words with a value behind an equals sign. All else is passed
over. -/
def parameters (cs : List Char) : List (List Char × List Char) :=
  match _h : cs.dropWhile fun c => !isWord c with
  | [] => []
  | c :: rest =>
    let name := c :: rest.takeWhile isWord
    match _h' : rest.dropWhile isWord with
    | '=' :: behind => (name, (splitValue behind).1) :: parameters (splitValue behind).2
    | behind => parameters behind
termination_by cs.length
decreasing_by
  all_goals
    have h₁ := (List.dropWhile_sublist (l := cs) fun c => !isWord c).length_le
    have h₂ := (List.dropWhile_sublist (l := rest) isWord).length_le
    rw [_h] at h₁
    rw [_h'] at h₂
    simp only [List.length_cons] at h₁ h₂ ⊢
  · have := length_splitValue_le behind
    omega
  · omega

/-- The value of a parameter. Letter case does not count in names, and the last of several counts. -/
def value? (name : String) (params : List (List Char × List Char)) : Option String :=
  (params.reverse.find? fun p => lower p.1 = name.toList).map fun p => String.ofList p.2

/-- The challenge of a header. -/
def parse (header : String) : Except RegistryError Challenge :=
  let cs := trim isBlank header.toList
  let (scheme, rest) := (splitFirst ' ' cs).getD (cs, [])
  let scheme := lower scheme
  if scheme = "bearer".toList then
    let params := parameters rest
    match value? "realm" params with
    | some realm =>
      if realm = "" then .error (.badChallenge (String.ofList cs))
      else .ok (.bearer realm (value? "service" params) (value? "scope" params))
    | none => .error (.badChallenge (String.ofList cs))
  else if scheme = "basic".toList then .ok .basic
  else .error (.badChallenge (String.ofList cs))

end Challenge

end ImageSync
