import ImageSync.Catalog.Basic
import ImageSync.Catalog.Error
import ImageSync.Files.Tree
import ImageSync.Text.Blank
import ImageSync.Yaml.Node

/-!
# Reading catalogs

A catalog is a YAML document: a mapping from registries to what is said about them. Unknown and
repeated settings are errors, and of repositories or registries of the same name the last counts.

## Main definitions

* `Catalog.parse?`: the catalog of a text.
* `Catalog.load`: the catalog in a file.
-/

namespace ImageSync

open Yaml (Node)

namespace Yaml.Node

/-- Whether nothing is written where the node stands. -/
def isBare : Node → Bool
  | .scalar .plain _ [] => true
  | _ => false

/-- The entries of a mapping; nothing at all counts as none. -/
def fields? : Node → Option (List (Node × Node))
  | .mapping fs => some fs
  | n => if n.isBare then some [] else none

/-- The items of a list; nothing at all counts as none. -/
def items? : Node → Option (List Node)
  | .sequence ns => some ns
  | n => if n.isBare then some [] else none

/-- The text of a scalar of any kind. -/
def text? : Node → Option String
  | .scalar _ _ cs => some (String.ofList cs)
  | _ => none

/-- The spellings of no value. -/
def isNullText (cs : List Char) : Bool :=
  ["null", "Null", "NULL", "~"].any fun t => t.toList = cs

/-- The tag of no value. -/
def nullTag : List Char := "tag:yaml.org,2002:null".toList

/-- The tag of truth values. -/
def boolTag : List Char := "tag:yaml.org,2002:bool".toList

/-- What stands at a setting that may have no value: the node itself or nothing. A plain scalar can
say that there is no value; with the tag for it, it has to. -/
def present? : Node → Option (Option Node)
  | .scalar .plain tag cs =>
    if tag.isEmpty then
      if cs.isEmpty || isNullText cs then some none else some (some (.scalar .plain tag cs))
    else if tag = nullTag then (if isNullText cs then some none else none)
    else some (some (.scalar .plain tag cs))
  | n => some (some n)

/-- The truth value of a scalar that is plain, or a literal block with the tag for it. -/
def truth? : Node → Option Bool
  | .scalar style tag cs =>
    if style = .plain ∨ (style = .literal ∧ tag = boolTag) then
      if ["true", "True", "TRUE"].any fun t => t.toList = cs then some true
      else if ["false", "False", "FALSE"].any fun t => t.toList = cs then some false
      else none
    else none
  | _ => none

/-- The entries of a mapping by the texts of their keys. -/
def named? (n : Node) : Option (List (String × Node)) := do
  let fs ← n.fields?
  fs.mapM fun f => do return (← f.1.text?, f.2)

/-- The entries of a mapping of which each has one of the given keys, and none twice. -/
def settings? (known : List String) (n : Node) : Option (List (String × Node)) := do
  let fs ← n.named?
  if (fs.all fun f => known.contains f.1) && (fs.map Prod.fst).Nodup then some fs else none

end Yaml.Node

namespace Catalog

/-- Reads the value of a setting, or takes the default if it is not there. -/
def setting? {α : Type} (fs : List (String × Node)) (key : String) (default : α)
    (read : Node → Option α) : Option α :=
  match fs.lookup key with
  | none => some default
  | some n => read n

/-- The tags and digests of a repository. -/
def refs? (n : Node) : Option (List String) := do
  match ← n.present? with
  | none => return []
  | some n => (← n.items?).mapM Node.text?

/-- A map whose values are read. -/
def map? {α : Type} (read : Node → Option α) (n : Node) : Option (List (String × α)) := do
  let fs ← n.named?
  let pairs ← fs.mapM fun f => do return (f.1, ← read f.2)
  return Sorted.ofPairs pairs

/-- Credentials; either part may be missing. -/
def credentials? (n : Node) : Option Credentials := do
  let fs ← n.settings? ["username", "password"]
  return ⟨← setting? fs "username" "" Node.text?, ← setting? fs "password" "" Node.text?⟩

/-- A value that may be absent. -/
def optional? {α : Type} (read : Node → Option α) (n : Node) : Option (Option α) := do
  match ← n.present? with
  | none => return none
  | some n => return some (← read n)

/-- What is said about one registry. -/
def entry? (n : Node) : Option RegistryEntry := do
  let fs ← n.settings? ["images", "images-by-tag-regex", "credentials", "tls-verify", "cert-dir"]
  return {
    images := ← setting? fs "images" [] (map? refs?)
    patterns := ← setting? fs "images-by-tag-regex" [] (map? Node.text?)
    credentials := ← setting? fs "credentials" {} credentials?
    verify := ← setting? fs "tls-verify" none (optional? Node.truth?)
    certDir := ← setting? fs "cert-dir" none (optional? Node.text?) }

/-- The catalog of a text. A text of blanks alone is the empty catalog. -/
def parse? (s : String) : Option Catalog :=
  if s.toList.all Text.isBlank then some {}
  else do
    let n ← Node.parse? s
    return { registries := ← map? entry? n }

/-- The catalog in a file. -/
def load (tree : FileTree) (path : String) : Except SettingsError Catalog :=
  match tree.read (Path.ofString path) with
  | .error e => .error (.unreadable path e)
  | .ok bytes =>
    match Text.Utf8.decode? bytes with
    | none => .error (.unreadable path .notText)
    | some cs =>
      match parse? (String.ofList cs) with
      | none => .error (.malformed path)
      | some c => .ok c

end Catalog

end ImageSync
