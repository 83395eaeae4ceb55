import ImageSync.Files.Path

/-!
# File trees

A file tree says which entry lies at which place. A place is the list of names that leads to it from
the root without links. Paths are resolved as an operating system resolves them: step by step from
the left, following symbolic links.

## Main definitions

* `Entry`, `Place`, `FileTree`: the data.
* `NameLimits`: how long names and paths may be.
* `FileTree.get? t at`: the entry at a place.
* `FileTree.absolute? t p`: the path `p` made absolute.
* `FileTree.locate t p follow`: where a path leads.
* `FileTree.stat t p`: the entry a path leads to, links followed.
* `FileTree.isFolder`, `FileTree.isFile`, `FileTree.read`, `FileTree.list`: what can be asked of it.
-/

namespace ImageSync

open Text

/-- What lies at a place. -/
inductive Entry where
  /-- A directory. -/
  | folder
  /-- A regular file with its bytes. -/
  | file (content : List UInt8)
  /-- A symbolic link with its target. -/
  | link (target : Path)
deriving DecidableEq, Repr

/-- The names from the root to an entry. -/
abbrev Place := List Name

/-- How many bytes a file name and a path may have. -/
class NameLimits where
  name : Option Nat
  path : Option Nat
deriving Repr

/-- The limits of common file systems. -/
instance NameLimits.usual : NameLimits := ⟨some 255, some 4095⟩

/-- No limits at all. -/
abbrev NameLimits.unlimited : NameLimits := ⟨none, none⟩

/-- The entries of a file system and its working directory. The root is a directory and has no
entry. -/
structure FileTree where
  entries : List (Place × Entry)
  home : Place
  /-- How many directories at the end of `home` were removed since. Relative paths start there even
  so, but a removed directory has no entries and gets none. -/
  removed : Nat := 0
  [limits : NameLimits]
deriving Repr

namespace FileTree

/-- The entry at a place. -/
def get? (t : FileTree) (at_ : Place) : Option Entry :=
  if at_.isEmpty then some .folder else t.entries.lookup at_

/-- The tree with nothing but the root, which is the working directory. -/
abbrev empty : FileTree := { entries := [], home := [] }

/-- The tree with one entry more. -/
def add (t : FileTree) (at_ : Place) (e : Entry) : FileTree :=
  { t with entries := t.entries ++ [(at_, e)] }

/-- The tree with another content of the file at a place. -/
def overwrite (t : FileTree) (at_ : Place) (content : List UInt8) : FileTree :=
  { t with entries := t.entries.map fun p => if p.1 = at_ then (at_, .file content) else p }

/-- The working directory as a path. -/
def homePath (t : FileTree) : Path := Path.slash :: joinWith Path.slash t.home

/-- The path made absolute by its text alone, which for a relative path takes the path of the working
directory. -/
def absolute? (t : FileTree) (p : Path) : Except SystemError Path :=
  if p.isEmpty || Path.isAbsolute p || t.removed == 0 then Path.absolute? t.homePath p
  else .error .notFound

/-- Whether a file name is longer than the file system allows. -/
def exceedsName (t : FileTree) (n : Name) : Bool :=
  t.limits.name.any fun limit => decide ((Path.bytes n).length > limit)

/-- Whether a path is longer than the file system allows. -/
def exceedsPath (t : FileTree) (p : Path) : Bool :=
  t.limits.path.any fun limit => decide ((Path.bytes p).length > limit)

/-- How many links are followed for one path. -/
def maxLinks : Nat := 40

/-- Where a path leads. -/
inductive Location where
  /-- To an entry. -/
  | found (at_ : Place) (entry : Entry)
  /-- To a name that its directory does not have. -/
  | missing (folder : Place) (name : Name)
deriving Repr

/-- Where a path starts. -/
def start (t : FileTree) (p : Path) : Place := if Path.isAbsolute p then [] else t.home

/-- Follows names from a directory as far as the first link that has to be followed; from there
`beyond` goes on. `follow` says whether a link at the end is followed, `folderNeeded` whether only a
directory will do there. -/
def walkWith (t : FileTree) (follow : Bool)
    (beyond : Bool → Place → List Name → Except SystemError Location) (folderNeeded : Bool)
    (at_ : Place) : List Name → Except SystemError Location
  | [] => .ok (.found at_ .folder)
  | n :: rest =>
    if n = Path.hereName then walkWith t follow beyond folderNeeded at_ rest
    else if n = Path.upName then walkWith t follow beyond folderNeeded at_.dropLast rest
    else if t.exceedsName n then .error .nameTooLong
    else
      match t.get? (at_ ++ [n]) with
      | none => if rest.isEmpty then .ok (.missing at_ n) else .error .notFound
      | some .folder => walkWith t follow beyond folderNeeded (at_ ++ [n]) rest
      | some (.file content) =>
        if rest.isEmpty && !folderNeeded then .ok (.found (at_ ++ [n]) (.file content))
        else .error .notDirectory
      | some (.link target) =>
        if rest.isEmpty && !follow && !folderNeeded then .ok (.found (at_ ++ [n]) (.link target))
        else
          let origin := if Path.isAbsolute target then [] else at_
          let folderNeeded := folderNeeded || (rest.isEmpty && Path.endsInSlash target)
          beyond folderNeeded origin (Path.segments target ++ rest)

/-- Follows names from a directory. `links` is the number of links that may still be followed. -/
def walk (t : FileTree) (follow folderNeeded : Bool) (links : Nat) (at_ : Place)
    (names : List Name) : Except SystemError Location :=
  match links with
  | 0 => t.walkWith follow (fun _ _ _ => .error .linkLoop) folderNeeded at_ names
  | links + 1 =>
    t.walkWith follow (fun folderNeeded => t.walk follow folderNeeded links) folderNeeded at_ names

/-- Whether names ask for an entry of a removed directory, if the last `removed` directories were
removed of the way to where they start. -/
def asksRemoved : Nat → List Name → Bool
  | 0, _ => false
  | _ + 1, [] => false
  | removed + 1, n :: names =>
    if n = Path.hereName then asksRemoved (removed + 1) names
    else if n = Path.upName then asksRemoved removed names
    else true

/-- Refuses the texts that are no path of an existing file: the empty one, one with a NUL, one that
is too long and one that asks for an entry of a removed directory. -/
def checkText (t : FileTree) (p : Path) : Except SystemError Unit :=
  if Utf8.Piece.char '\x00' ∈ p then .error .nulInPath
  else if p.isEmpty then .error .notFound
  else if t.exceedsPath p then .error .nameTooLong
  else if !Path.isAbsolute p && asksRemoved t.removed (Path.segments p) then .error .notFound
  else .ok ()

/-- Where a path leads. A link at the end is followed if `follow` says so or a slash stands behind
it. -/
def locate (t : FileTree) (p : Path) (follow : Bool) : Except SystemError Location :=
  match t.checkText p with
  | .error e => .error e
  | .ok () => t.walk follow (Path.endsInSlash p) maxLinks (t.start p) (Path.segments p)

/-- The place and the entry that a path leads to. -/
def find (t : FileTree) (p : Path) (follow : Bool) : Except SystemError (Place × Entry) :=
  match t.locate p follow with
  | .error e => .error e
  | .ok (.missing _ _) => .error .notFound
  | .ok (.found at_ e) => .ok (at_, e)

/-- The entry that a path leads to, links followed. -/
def stat (t : FileTree) (p : Path) : Except SystemError Entry := (t.find p true).map Prod.snd

/-- Whether a path leads to a directory. -/
def isFolder (t : FileTree) (p : Path) : Bool :=
  match t.stat p with
  | .ok .folder => true
  | _ => false

/-- Whether a path leads to a regular file. -/
def isFile (t : FileTree) (p : Path) : Bool :=
  match t.stat p with
  | .ok (.file _) => true
  | _ => false

/-- The bytes of the file that a path leads to. -/
def read (t : FileTree) (p : Path) : Except SystemError (List UInt8) :=
  match t.stat p with
  | .error e => .error e
  | .ok (.file content) => .ok content
  | .ok _ => .error .isDirectory

/-- Whether the bytes of `a` come before those of `b`, compared from the left. -/
def nameLe (a b : Name) : Bool := decide (Path.bytes a ≤ Path.bytes b)

/-- The name and the kind of an entry, if it lies directly in the directory at a place. -/
def child? (at_ : Place) (p : Place × Entry) : Option (Name × Entry) :=
  match p.1.getLast? with
  | some n => if p.1.dropLast = at_ then some (n, p.2) else none
  | none => none

/-- The entries that lie directly in the directory at a place, in the byte order of their names. -/
def children (t : FileTree) (at_ : Place) : List (Name × Entry) :=
  (t.entries.filterMap (child? at_)).mergeSort fun a b => nameLe a.1 b.1

/-- The entries in the directory that a path leads to. -/
def list (t : FileTree) (p : Path) : Except SystemError (List (Name × Entry)) :=
  match t.find p true with
  | .error e => .error e
  | .ok (at_, .folder) => .ok (t.children at_)
  | .ok _ => .error .notDirectory

end FileTree

end ImageSync
