import ImageSync.Reference.Grammar

/-!
# Image references

A reference names an image in a registry: a host, a path on it, and a tag, a digest, both or
neither. A reference with neither names the repository.

## Main definitions

* `Digest`, `Digest.parse`: content identifiers.
* `Reference`: the data, with `repository`, `withTag` and `withDigest`.
* `Reference.parse`: reads a reference, completing short names.
* `Reference.parseRepository`: the same for texts that have to name a repository.
* `Reference.text`: the full name, `host/path[:tag][@digest]`.
-/

namespace ImageSync

open Text

/-- Why a text is no reference, tag or digest. Each cause carries the offending text. -/
inductive ReferenceError where
  /-- The text does not fit the grammar. -/
  | malformed (input : String)
  /-- The path has capital letters. -/
  | upperCase (input : String)
  /-- Host and path together are too long. -/
  | tooLong (input : String)
  /-- The text is a bare content identifier. -/
  | bareHex (input : String)
  /-- The tag does not fit the grammar. -/
  | badTag (tag : String)
  /-- The digest does not fit the grammar or has the wrong length. -/
  | badDigest (input : String)
  /-- The digest is well formed but of a kind that is not known. -/
  | unknownAlgorithm (algorithm : String)
  /-- A repository was asked for and the text names an image in one. -/
  | notRepository (input : String)
deriving DecidableEq, Repr

/-- The message for a cause. -/
def ReferenceError.message : ReferenceError → String
  | malformed s => "invalid reference format: \"" ++ s ++ "\""
  | upperCase s =>
    "invalid reference format: repository name must be lowercase: \"" ++ s ++ "\""
  | tooLong s => "repository name must not be more than 255 characters: \"" ++ s ++ "\""
  | bareHex s =>
    "invalid repository name \"" ++ s ++ "\", cannot specify 64-byte hexadecimal strings"
  | badTag s => "invalid tag format: \"" ++ s ++ "\""
  | badDigest s => "invalid digest format: \"" ++ s ++ "\""
  | unknownAlgorithm s => "unsupported digest algorithm: \"" ++ s ++ "\""
  | notRepository s => "input names a reference, not a repository: \"" ++ s ++ "\""

/-! ## Digests -/

/-- A content identifier: the hexadecimal value of a hash function. -/
structure Digest where
  algorithm : String
  hex : String
deriving DecidableEq, Repr, Inhabited

namespace Digest

/-- The number of hexadecimal digits of each known algorithm. -/
def hexLength? (algorithm : List Char) : Option Nat :=
  if algorithm = "sha256".toList then some 64
  else if algorithm = "sha384".toList then some 96
  else if algorithm = "sha512".toList then some 128
  else none

/-- Reads `algorithm:hex`. The algorithm has to be known and the value of its exact length, in lower
case. -/
def parse (input : String) : Except ReferenceError Digest :=
  match splitFirst ':' input.toList with
  | none => .error (.badDigest input)
  | some (algorithm, hex) =>
    if Reference.isAlgorithm algorithm && Reference.isDigestText hex then
      match hexLength? algorithm with
      | none => .error (.unknownAlgorithm (String.ofList algorithm))
      | some n =>
        if hex.length = n ∧ hex.all Reference.isLowerHex then
          .ok ⟨String.ofList algorithm, String.ofList hex⟩
        else .error (.badDigest input)
    else .error (.badDigest input)

/-- The digest as `algorithm:hex`. -/
def text (d : Digest) : String := d.algorithm ++ ":" ++ d.hex

end Digest

/-! ## References -/

/-- The name of a repository in a registry, or of an image in it. -/
structure Reference where
  host : String
  path : String
  tag : Option String
  digest : Option Digest
deriving DecidableEq, Repr, Inhabited

namespace Reference

/-- The registry of names without a host. -/
def defaultHost : String := "docker.io"

/-- An older name of the default registry. -/
def legacyHost : String := "index.docker.io"

/-- The namespace of one-component paths on the default registry. -/
def officialNamespace : String := "library/"

/-- The greatest length of a host, a slash and a path together. -/
def maxNameLength : Nat := 255

/-- The host of a text and what follows it. Without a host the default registry is meant, and there
a path of one component lies in the official namespace. -/
def splitHost (cs : List Char) : List Char × List Char :=
  let (host, rest) :=
    match splitFirst '/' cs with
    | some (first, rest) =>
      if looksLikeHost first then (first, rest) else (defaultHost.toList, cs)
    | none => (defaultHost.toList, cs)
  let host := if host = legacyHost.toList then defaultHost.toList else host
  if host = defaultHost.toList ∧ '/' ∉ rest then (host, officialNamespace.toList ++ rest)
  else (host, rest)

/-- The path of a text without digest and its tag: what follows the last colon, unless a slash
follows that colon. -/
def splitTag (cs : List Char) : List Char × Option (List Char) :=
  match splitLast ':' cs with
  | some (path, tag) => if '/' ∈ tag then (cs, none) else (path, some tag)
  | none => (cs, none)

/-- Accepts a text that is a tag. -/
def checkTag (tag : String) : Except ReferenceError Unit :=
  if isTag tag.toList then .ok () else .error (.badTag tag)

/-- The host, path, tag and digest of a text that has been cut at its separators, each checked. -/
def ofParts (input : String) (host path : List Char) (tag : Option (List Char))
    (digest : Option Digest) : Except ReferenceError Reference :=
  if path.any Char.isUpper then .error (.upperCase input)
  else if path.isEmpty || !isPath path then .error (.malformed input)
  else if !isHost host then .error (.malformed input)
  else if host.length + 1 + path.length > maxNameLength then .error (.tooLong input)
  else
    match tag with
    | none => .ok ⟨String.ofList host, String.ofList path, none, digest⟩
    | some tag =>
      match checkTag (String.ofList tag) with
      | .error e => .error e
      | .ok () => .ok ⟨String.ofList host, String.ofList path, some (String.ofList tag), digest⟩

/-- Reads a reference, completing a short name with the default registry. Of several faults the
first counts: a bare content identifier, the digest, capital letters in the path, the grammar of
path and host, the length, the tag. -/
def parse (input : String) : Except ReferenceError Reference :=
  if isHex64 input.toList then .error (.bareHex input)
  else
    let (host, rest) := splitHost input.toList
    match splitFirst '@' rest with
    | none =>
      let (path, tag) := splitTag rest
      ofParts input host path tag none
    | some (named, digest) =>
      match Digest.parse (String.ofList digest) with
      | .error e => .error e
      | .ok digest =>
        let (path, tag) := splitTag named
        ofParts input host path tag (some digest)

/-- Whether the reference names a repository and no image in it. -/
def isRepository (r : Reference) : Bool := r.tag.isNone && r.digest.isNone

/-- Reads a text that has to name a repository. -/
def parseRepository (input : String) : Except ReferenceError Reference :=
  match parse input with
  | .error e => .error e
  | .ok r => if r.isRepository then .ok r else .error (.notRepository input)

/-- Host and path, without tag and digest. -/
def name (r : Reference) : String := r.host ++ "/" ++ r.path

/-- The repository of an image. -/
def repository (r : Reference) : Reference := { r with tag := none, digest := none }

/-- The image of that tag in the same repository. -/
def withTag (r : Reference) (tag : String) : Except ReferenceError Reference :=
  match checkTag tag with
  | .error e => .error e
  | .ok () => .ok { r.repository with tag := some tag }

/-- The image of that digest in the same repository. -/
def withDigest (r : Reference) (digest : Digest) : Reference :=
  { r.repository with digest := some digest }

/-- The full name, `host/path[:tag][@digest]`. -/
def text (r : Reference) : String :=
  r.name ++ (match r.tag with | some t => ":" ++ t | none => "") ++
    (match r.digest with | some d => "@" ++ d.text | none => "")

@[simp] theorem repository_repository (r : Reference) : r.repository.repository = r.repository :=
  rfl
@[simp] theorem name_repository (r : Reference) : r.repository.name = r.name := rfl
@[simp] theorem isRepository_repository (r : Reference) : r.repository.isRepository = true := rfl
@[simp] theorem repository_withDigest (r : Reference) (d : Digest) :
    (r.withDigest d).repository = r.repository := rfl

@[simp] theorem text_repository (r : Reference) : r.repository.text = r.name := by
  simp [text, repository, name]

theorem checkTag_eq_ok_iff (tag : String) : checkTag tag = .ok () ↔ isTag tag.toList = true := by
  unfold checkTag
  split <;> simp_all

/-- A tag is put on a repository exactly if it is one; what was addressed before is lost. -/
theorem withTag_eq_ok_iff {r s : Reference} {tag : String} :
    r.withTag tag = .ok s ↔
      isTag tag.toList = true ∧ s = { r.repository with tag := some tag } := by
  unfold withTag checkTag
  by_cases h : isTag tag.toList = true
  · simp [h, eq_comm]
  · simp [h]

end Reference

end ImageSync
