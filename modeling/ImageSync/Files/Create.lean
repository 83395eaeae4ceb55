import ImageSync.Files.Tree

/-!
# Creating entries

Directories, links and files are only ever added to a tree; an entry that exists is not replaced,
except that the bytes of a file can be written anew.

## Main definitions

* `FileTree.makeFolder t p`: one new directory.
* `FileTree.makeFolders t p`: a directory and those above it, as far as they are missing.
* `FileTree.makeLink t p target`: one new symbolic link.
* `FileTree.write t p content`: a file with these bytes.
-/

namespace ImageSync.FileTree

open Text

/-- The place at which a path would create an entry: its directory has to exist and its last name
must not. -/
def freshPlace (t : FileTree) (p : Path) : Except SystemError Place :=
  match t.checkText p with
  | .error e => .error e
  | .ok () =>
    let names := Path.segments p
    match names.getLast? with
    | none => .error .alreadyExists
    | some last =>
      match t.walk true true maxLinks (t.start p) names.dropLast with
      | .error e => .error e
      | .ok (.missing _ _) => .error .notFound
      | .ok (.found folder _) =>
        if last = Path.hereName ∨ last = Path.upName then .error .alreadyExists
        else if t.exceedsName last then .error .nameTooLong
        else if (t.get? (folder ++ [last])).isSome then .error .alreadyExists
        else .ok (folder ++ [last])

/-- The tree with a new directory. -/
def makeFolder (t : FileTree) (p : Path) : Except SystemError FileTree :=
  (t.freshPlace p).map fun place => t.add place .folder

/-- The tree with a new symbolic link. -/
def makeLink (t : FileTree) (p target : Path) : Except SystemError FileTree :=
  (t.freshPlace p).map fun place => t.add place (.link target)

/-- Creates a directory unless a path leads to one already. -/
def makeFolderUnlessThere (t : FileTree) (p : Path) : Except SystemError Unit × FileTree :=
  match t.makeFolder p with
  | .ok t => (.ok (), t)
  | .error e => (if t.isFolder p then .ok () else .error e, t)

/-- Creates the first directory of a list in which each path is followed by the one above it; if that
one is missing, it is created before. -/
def makeFoldersFrom (t : FileTree) : List Path → Except SystemError Unit × FileTree
  | [] => (.error .noAncestor, t)
  | p :: above =>
    if p.isEmpty then (.ok (), t)
    else
      match t.makeFolder p with
      | .ok t => (.ok (), t)
      | .error e =>
        if e ≠ .notFound then (if t.isFolder p then .ok () else .error e, t)
        else
          match t.makeFoldersFrom above with
          | (.error e, t) => (.error e, t)
          | (.ok (), t) => t.makeFolderUnlessThere p

/-- Creates a directory and the missing ones above it. Those created before a failure stay. -/
def makeFolders (t : FileTree) (p : Path) : Except SystemError Unit × FileTree :=
  t.makeFoldersFrom (p :: Path.parents p)

/-- The tree with a file of these bytes; an existing file is written anew. -/
def write (t : FileTree) (p : Path) (content : List UInt8) : Except SystemError FileTree :=
  match t.locate p true with
  | .error e => .error e
  | .ok (.missing folder name) => .ok (t.add (folder ++ [name]) (.file content))
  | .ok (.found place (.file _)) => .ok (t.overwrite place content)
  | .ok (.found _ _) => .error .isDirectory

end ImageSync.FileTree
