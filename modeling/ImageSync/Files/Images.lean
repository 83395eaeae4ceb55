import ImageSync.Files.Tree

/-!
# Exported images in a file tree

An image directory holds the manifest of one exported image. The search for them starts at a
directory, looks at a directory before those below it, in byte order of their names, and does not
look below an image. It asks for everything by its whole path, so a directory that is too far away
for one path cannot be searched.

## Main definitions

* `FileTree.imagesBelow`: the image directories at and below a directory, relative to it.
* `FileTree.findImages t p`: their paths, as seen from the path that was searched.
-/

namespace ImageSync

open Text

/-- The name of the file that makes a directory an image. -/
def manifestName : Name := Path.ofString "manifest.json"

/-- The path that is reached from another one by names. -/
def Path.below (p : Path) (ns : List Name) : Path := ns.foldl append p

@[simp] theorem Path.below_nil (p : Path) : p.below [] = p := rfl

/-- Why a search was broken off, and at which path. -/
structure SearchError where
  path : Path
  cause : SystemError
deriving DecidableEq, Repr

namespace FileTree

/-- Whether the directory that a path leads to holds a manifest: a regular file, or a link to one. -/
def holdsImage (t : FileTree) (p : Path) : Bool := t.isFile (Path.append p manifestName)

/-- The names of the directories among some entries; links to directories do not count. -/
def subfolders (entries : List (Name × Entry)) : List Name :=
  entries.filterMap fun c => if c.2 = .folder then some c.1 else none

/-- What `search` finds in the directories that lie directly in the one that a path leads to, as
names from there. -/
def searchWithin (t : FileTree) (search : Path → Except SearchError (List (List Name)))
    (p : Path) : Except SearchError (List (List Name)) :=
  match t.list p with
  | .error e => .error ⟨p, e⟩
  | .ok entries =>
    ((subfolders entries).mapM fun n =>
      (search (Path.append p n)).map fun found => found.map (n :: ·)).map List.flatten

/-- The image directories at and below the directory that a path leads to, as names from there.
`depth` limits how far down the search goes. -/
def imagesBelow (t : FileTree) : Nat → Path → Except SearchError (List (List Name))
  | depth, p =>
    if t.holdsImage p then .ok [[]]
    else
      match depth with
      | 0 => .ok []
      | depth + 1 => t.searchWithin (t.imagesBelow depth) p

/-- The number of names of the deepest place. -/
def height (t : FileTree) : Nat := (t.entries.map fun p => p.1.length).foldl max 0

/-- The image directories below the path `p` by their paths. A path that is itself a symbolic link
to a directory is no image, and only the directories below are searched. -/
def findImages (t : FileTree) (p : Path) : Except SearchError (List Path) :=
  match t.find p false with
  | .error e => .error ⟨p, e⟩
  | .ok (_, .folder) => (t.imagesBelow (t.height + 1) p).map (List.map p.below)
  | .ok (_, .file _) => .ok []
  | .ok (_, .link _) =>
    match t.find p true with
    | .error e => .error ⟨p, e⟩
    | .ok (_, .folder) => (t.searchWithin (t.imagesBelow t.height) p).map (List.map p.below)
    | .ok _ => .ok []

end FileTree

end ImageSync
