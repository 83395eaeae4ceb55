import ImageSync.Text.Split

/-!
# Redaction

Addresses are logged without the parts that can hold secrets: the user part in front of the host and
the query.

## Main definitions

* `redactUrl`: an address without its user part and its query.
-/

namespace ImageSync

open Text

/-- What stands in place of a secret part of an address. -/
def blotted : List Char := "****".toList

/-- The part behind the scheme without its user part: what stands in front of the last `@` before
the first slash is hidden. -/
def hideUser (cs : List Char) : List Char :=
  let (authority, path) := cs.span fun c => c ≠ '/'
  match splitLast '@' authority with
  | some (_, host) => blotted ++ '@' :: host ++ path
  | none => cs

/-- An address without the query, with its user part hidden. -/
def hideUserOfUrl (cs : List Char) : List Char :=
  match splitAround "://".toList cs with
  | some (scheme, rest) => scheme ++ "://".toList ++ hideUser rest
  | none => cs

/-- An address with its user part and its query hidden. -/
def redactChars (cs : List Char) : List Char :=
  match splitFirst '?' cs with
  | some (base, _) => hideUserOfUrl base ++ '?' :: blotted
  | none => hideUserOfUrl cs

/-- An address with its user part and its query hidden. -/
def redactUrl (url : String) : String := String.ofList (redactChars url.toList)

end ImageSync
