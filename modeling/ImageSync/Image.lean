import ImageSync.Files.Tree
import ImageSync.Reference.Basic

/-!
# Images

An image lies in a registry, where a reference names it, or in a directory.

## Main definitions

* `Image`: where an image lies.
* `Image.text`: the same with its transport, `docker://NAME` or `dir:PATH`.
-/

namespace ImageSync

/-- Where an image lies. -/
inductive Image where
  | inRegistry (reference : Reference)
  | inFolder (path : Path)
deriving DecidableEq, Repr

namespace Image

/-- The place of an image with its transport. -/
def text : Image → String
  | inRegistry r => "docker://" ++ r.text
  | inFolder p => "dir:" ++ p.shown

/-- The reference of an image in a registry. -/
def reference? : Image → Option Reference
  | inRegistry r => some r
  | inFolder _ => none

/-- The image in a directory whose path is made absolute. -/
def ofFolder (t : FileTree) (path : Path) : Except SystemError Image :=
  (t.absolute? path).map inFolder

@[simp] theorem reference?_inRegistry (r : Reference) : (inRegistry r).reference? = some r := rfl

end Image

end ImageSync
