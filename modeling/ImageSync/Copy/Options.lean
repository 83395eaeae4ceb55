/-!
# Options of a copy

What is asked of the tool that copies an image, besides where from and where to.
-/

namespace ImageSync

/-- The kinds of manifests that can be asked for. -/
inductive ManifestFormat where
  | oci
  | v2s1
  | v2s2
deriving DecidableEq, Repr

namespace ManifestFormat

/-- The format of that name. -/
def ofName? (name : String) : Option ManifestFormat :=
  if name = "oci" then some oci
  else if name = "v2s1" then some v2s1
  else if name = "v2s2" then some v2s2
  else none

/-- The short name of a format. -/
def name : ManifestFormat → String
  | oci => "oci"
  | v2s1 => "v2s1"
  | v2s2 => "v2s2"

/-- The media type of a format. -/
def mediaType : ManifestFormat → String
  | oci => "application/vnd.oci.image.manifest.v1+json"
  | v2s1 => "application/vnd.docker.distribution.manifest.v1+prettyjws"
  | v2s2 => "application/vnd.docker.distribution.manifest.v2+json"

theorem ofName?_name (f : ManifestFormat) : ofName? f.name = some f := by
  cases f <;> simp [ofName?, name]

end ManifestFormat

/-- What is asked of a copy. -/
structure CopyOptions where
  /-- Signatures of the source are not copied. -/
  removeSignatures : Bool := false
  /-- The key with which the copy is signed. -/
  signBy : Option String := none
  /-- The kind of manifest to write. -/
  format : Option ManifestFormat := none
  /-- Every image of a list is copied, not only the one for this system. -/
  all : Bool := false
  /-- Parts that the destination has already are left out. -/
  optimize : Bool := true
deriving DecidableEq, Repr

end ImageSync
