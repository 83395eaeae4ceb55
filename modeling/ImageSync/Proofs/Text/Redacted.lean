import ImageSync.Proofs.Text.Split
import ImageSync.Redaction
import Mathlib.Data.List.TakeDrop

/-!
# What a log shows of an address

The user part of an address and its query can hold secrets. Of both it is shown that they are there
and nothing else; every other part is shown as it is. A text without a scheme has no user part, so
all of it but the query is shown.

## Main definitions

* `Redaction.Address`: an address in parts.
* `Redaction.Address.redacted`: the same address with its secret parts hidden.

## Main statements

* `Redaction.redactUrl_text`: the redacted text of an address.
* `Redaction.exists_parts`: each text is an address or has no scheme.
* `redactUrl_hides`: what redaction shows of a text.
-/

namespace ImageSync

open Text

namespace Redaction

/-- What marks the end of a scheme. -/
def schemeMark : String := "://"

/-- A user part in front of a host. -/
def userText : Option String → String
  | some user => user ++ "@"
  | none => ""

/-- A query behind an address. -/
def queryText : Option String → String
  | some query => "?" ++ query
  | none => ""

/-- What is shown of a part that can hold a secret: whether it is there. -/
def hide (part : Option String) : Option String := part.map fun _ => "****"

@[simp] theorem hide_hide (part : Option String) : hide (hide part) = hide part := by
  cases part <;> rfl

/-- An address in parts. -/
structure Address where
  scheme : String
  user : Option String
  host : String
  /-- What follows the host: nothing, or a slash and more. -/
  path : String
  query : Option String
  scheme_plain : ¬schemeMark.toList <:+: scheme.toList ∧ '?' ∉ scheme.toList
  user_plain : ∀ x ∈ user, '/' ∉ x.toList ∧ '?' ∉ x.toList
  host_plain : '/' ∉ host.toList ∧ '@' ∉ host.toList ∧ '?' ∉ host.toList
  path_plain : (path = "" ∨ ∃ more, path = "/" ++ more) ∧ '?' ∉ path.toList

namespace Address

/-- The text of an address. -/
def text (a : Address) : String :=
  a.scheme ++ schemeMark ++ userText a.user ++ a.host ++ a.path ++ queryText a.query

/-- The address with its secret parts hidden. -/
def redacted (a : Address) : Address where
  scheme := a.scheme
  user := hide a.user
  host := a.host
  path := a.path
  query := hide a.query
  scheme_plain := a.scheme_plain
  user_plain := by
    cases a.user with
    | none => simp [hide]
    | some user => simp [hide]
  host_plain := a.host_plain
  path_plain := a.path_plain

/-- What was hidden is not hidden further. -/
@[simp] theorem redacted_redacted (a : Address) : a.redacted.redacted = a.redacted := by
  simp [redacted]

end Address

/-! ## Parts of a text -/

/-- The user part ends at the last `@` before the path. -/
theorem hideUser_append {authority path : List Char} (hauthority : '/' ∉ authority)
    (hpath : ∀ c, path.head? = some c → c = '/') :
    hideUser (authority ++ path) =
      match splitLast '@' authority with
      | some (_, host) => blotted ++ '@' :: host ++ path
      | none => authority ++ path := by
  obtain ⟨htake, hdrop⟩ := takeWhile_dropWhile_append (p := fun c => decide (c ≠ '/'))
    (a := authority) (b := path) (fun c hc => by simpa using ne_of_mem_of_not_mem hc hauthority)
    (fun c hc => by simp [hpath c hc])
  cases hsplit : splitLast '@' authority <;>
    simp only [hideUser, List.span_eq_takeWhile_dropWhile, htake, hdrop, hsplit]

/-- Behind the mark of a scheme only the user part changes. -/
theorem hideUserOfUrl_append {scheme : List Char} (h : ¬schemeMark.toList <:+: scheme)
    (rest : List Char) : hideUserOfUrl (scheme ++ (schemeMark.toList ++ rest)) =
      scheme ++ (schemeMark.toList ++ hideUser rest) := by
  have hcut : splitAround "://".toList (scheme ++ (schemeMark.toList ++ rest)) =
      some (scheme, rest) :=
    splitAround_append_cons (c := ':') (w := "//".toList) (by decide) h rest
  rw [hideUserOfUrl, hcut]
  exact List.append_assoc ..

/-- A text without the mark of a scheme is shown as it is. -/
theorem hideUserOfUrl_eq_self {base : List Char} (h : ¬schemeMark.toList <:+: base) :
    hideUserOfUrl base = base := by
  have hcut : splitAround "://".toList base = none := by
    rw [← Option.not_isSome_iff_eq_none]
    exact fun hsome => h (occurs_iff.1 hsome)
  rw [hideUserOfUrl, hcut]

/-- Of a query only its beginning is shown. -/
theorem redactUrl_append {base : String} (h : '?' ∉ base.toList) (query : Option String) :
    redactUrl (base ++ queryText query) =
      String.ofList (hideUserOfUrl base.toList) ++ queryText (hide query) := by
  cases query with
  | none => simp [redactUrl, redactChars, queryText, hide, splitFirst_eq_none_iff.2 h]
  | some query =>
      have hcut : splitFirst '?' (base ++ queryText (some query)).toList =
          some (base.toList, query.toList) := by
        simpa [queryText] using splitFirst_append_cons query.toList h
      rw [redactUrl, redactChars, hcut, ← String.toList_inj]
      simp [queryText, hide, blotted]

/-- The text of an address is redacted by hiding its secret parts. -/
theorem redactUrl_text (a : Address) : redactUrl a.text = a.redacted.text := by
  obtain ⟨hscheme, hscheme'⟩ := a.scheme_plain
  obtain ⟨hslash, hat, hhost'⟩ := a.host_plain
  obtain ⟨hpath, hpath'⟩ := a.path_plain
  have hfront : '?' ∉ (userText a.user).toList := by
    cases huser : a.user with
    | none => simp [userText]
    | some user => simpa [userText] using (a.user_plain user huser).2
  have hmark : '?' ∉ schemeMark.toList := by decide
  have hhead : ∀ c, a.path.toList.head? = some c → c = '/' := by
    rcases hpath with h | ⟨more, h⟩ <;> simp [h, eq_comm]
  have huser : hideUser ((userText a.user).toList ++ (a.host.toList ++ a.path.toList)) =
      (userText (hide a.user)).toList ++ (a.host.toList ++ a.path.toList) := by
    cases hu : a.user with
    | none =>
        simp [userText, hide, hideUser_append hslash hhead, splitLast_eq_none_iff.2 hat]
    | some user =>
        have hauthority : '/' ∉ user.toList ++ '@' :: a.host.toList := by
          simp [hslash, (a.user_plain user hu).1]
        simpa [userText, hide, blotted, splitLast_append_cons _ hat] using
          hideUser_append hauthority hhead
  have hbase : '?' ∉ (a.scheme ++ schemeMark ++ userText a.user ++ a.host ++ a.path).toList := by
    simp [hscheme', hmark, hfront, hhost', hpath']
  rw [Address.text, redactUrl_append hbase, ← String.toList_inj]
  simp [Address.text, Address.redacted, hideUserOfUrl_append hscheme, huser]

/-- The parts of what follows the mark of a scheme. -/
theorem exists_authority (rest : List Char) : ∃ (user : Option String) (host path : String),
    rest = (userText user).toList ++ (host.toList ++ path.toList) ∧
      (∀ x ∈ user, '/' ∉ x.toList) ∧ ('/' ∉ host.toList ∧ '@' ∉ host.toList) ∧
      (path = "" ∨ ∃ more, path = "/" ++ more) := by
  obtain ⟨authority, path, rfl, hauthority, hpath⟩ : ∃ authority path, rest = authority ++ path ∧
      '/' ∉ authority ∧ ∀ c, path.head? = some c → c = '/' := by
    refine ⟨rest.takeWhile (· ≠ '/'), rest.dropWhile (· ≠ '/'),
      List.takeWhile_append_dropWhile.symm, fun hc => ?_, fun c hc => ?_⟩
    · simpa using List.all_eq_true.1 List.all_takeWhile _ hc
    · have hnot := List.head?_dropWhile_not (· ≠ '/') rest
      rw [hc] at hnot
      simpa using hnot
  have hpath : String.ofList path = "" ∨ ∃ more, String.ofList path = "/" ++ more := by
    cases path with
    | nil => exact .inl rfl
    | cons c path =>
        obtain rfl := hpath c rfl
        exact .inr ⟨String.ofList path, by rw [← String.toList_inj]; simp⟩
  cases hcut : splitLast '@' authority with
  | none =>
      exact ⟨none, String.ofList authority, String.ofList path, by simp [userText], by simp,
        by simpa using ⟨hauthority, splitLast_eq_none_iff.1 hcut⟩, hpath⟩
  | some parts =>
      obtain ⟨hparts, hat⟩ := eq_append_of_splitLast hcut
      rw [hparts, List.mem_append, List.mem_cons] at hauthority
      push Not at hauthority
      obtain ⟨huser, -, hhost⟩ := hauthority
      exact ⟨some (String.ofList parts.1), String.ofList parts.2, String.ofList path,
        by simp [userText, hparts], by simpa using huser, by simpa using ⟨hhost, hat⟩, hpath⟩

/-- Each text is the text of an address, or it has no mark of a scheme before its query. -/
theorem exists_parts (u : String) :
    (∃ a : Address, u = a.text) ∨ ∃ base query, u = base ++ queryText query ∧
      ¬schemeMark.toList <:+: base.toList ∧ '?' ∉ base.toList := by
  obtain ⟨base, query, rfl, hbase⟩ :
      ∃ base query, u = base ++ queryText query ∧ '?' ∉ base.toList := by
    cases hcut : splitFirst '?' u.toList with
    | none => exact ⟨u, none, by simp [queryText], splitFirst_eq_none_iff.1 hcut⟩
    | some parts =>
        obtain ⟨hparts, hfront⟩ := eq_append_of_splitFirst hcut
        refine ⟨String.ofList parts.1, some (String.ofList parts.2), ?_, by simpa using hfront⟩
        rw [← String.toList_inj, hparts]
        simp [queryText]
  cases hmark : splitAround schemeMark.toList base.toList with
  | none =>
      refine .inr ⟨base, query, rfl, fun hinfix => ?_, hbase⟩
      simpa [occurs, hmark] using occurs_iff.2 hinfix
  | some parts =>
      obtain ⟨hparts, hscheme⟩ := eq_append_of_splitAround (by decide) hmark
      obtain ⟨user, host, path, hrest, huser, hhost, hpath⟩ := exists_authority parts.2
      have htext : base =
          String.ofList parts.1 ++ schemeMark ++ userText user ++ host ++ path := by
        rw [← String.toList_inj, hparts, hrest]
        simp
      rw [htext] at hbase ⊢
      simp only [String.toList_append, List.mem_append, not_or] at hbase
      refine .inl ⟨⟨String.ofList parts.1, user, host, path, query, ?_, ?_, ?_, ?_⟩, rfl⟩
      · exact ⟨by simpa using hscheme, hbase.1.1.1.1⟩
      · rintro x rfl
        exact ⟨huser x rfl, fun hx => hbase.1.1.2 (by simp [userText, hx])⟩
      · exact ⟨hhost.1, hhost.2, hbase.1.2⟩
      · exact ⟨hpath, hbase.2⟩

end Redaction

open Redaction in
/-- Redaction hides the user part and the query of an address and shows the rest. It shows nothing
of what stands behind the first question mark of a text, and it has nothing to hide in what was
redacted. -/
theorem redactUrl_hides :
    (∀ u, redactUrl (redactUrl u) = redactUrl u) ∧
      (∀ base query : String, '?' ∉ base.toList →
        redactUrl (base ++ "?" ++ query) = redactUrl base ++ "?****") ∧
      (∀ a : Address, redactUrl a.text = a.redacted.text) ∧
      ∀ a b : Address, a.redacted = b.redacted → redactUrl a.text = redactUrl b.text := by
  refine ⟨fun u => ?_, fun base query h => ?_, redactUrl_text, fun a b h => ?_⟩
  · rcases exists_parts u with ⟨a, rfl⟩ | ⟨base, query, rfl, hmark, hquery⟩
    · rw [redactUrl_text, redactUrl_text, Address.redacted_redacted]
    · rw [redactUrl_append hquery, hideUserOfUrl_eq_self hmark, String.ofList_toList,
        redactUrl_append hquery, hideUserOfUrl_eq_self hmark, String.ofList_toList, hide_hide]
  · have hbase := redactUrl_append h none
    have hwhole := redactUrl_append h (some query)
    simp only [queryText, hide, Option.map_some, Option.map_none, String.append_empty]
      at hbase hwhole
    rw [hbase, String.append_assoc, hwhole]
    rfl
  · rw [redactUrl_text, redactUrl_text, h]

namespace Redaction

/-- An address of a service for tokens, asked by a user whose password holds an `@`. -/
def tokenAddress : Address where
  scheme := "https"
  user := some "user:p@ss"
  host := "auth.example.com"
  path := "/token"
  query := some "scope=pull"
  scheme_plain := by decide +kernel
  user_plain := by simp
  host_plain := by decide +kernel
  path_plain := ⟨.inr ⟨"token", by decide +kernel⟩, by decide +kernel⟩

/-- The same address, asked by another user for something else. -/
def otherAddress : Address :=
  { tokenAddress with user := some "guest", query := some "scope=push", user_plain := by simp }

end Redaction

open Redaction in
/-- What is shown of an address does not depend on the user and the query. -/
theorem redactUrl_hides_password :
    ('?' ∉ "auth.example.com/token".toList ∧
      redactUrl ("auth.example.com/token" ++ "?" ++ "scope=pull") =
        redactUrl "auth.example.com/token" ++ "?****") ∧
    tokenAddress.redacted = otherAddress.redacted ∧
    redactUrl tokenAddress.text = redactUrl otherAddress.text := by
  obtain ⟨-, hquery, -, htwo⟩ := redactUrl_hides
  exact ⟨⟨by decide +kernel, hquery _ _ (by decide +kernel)⟩, rfl,
    htwo tokenAddress otherAddress rfl⟩

example : redactUrl "https://user:p@ss@auth.example.com/token?scope=pull" =
    "https://****@auth.example.com/token?****" := by
  decide +kernel

end ImageSync
