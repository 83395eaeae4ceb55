import ImageSync.Access
import ImageSync.Text.Sorted

/-!
# Catalogs

A catalog lists repositories of several registries: some by their tags and digests, others by a
pattern for their tags. Registries and repositories are kept in ascending order of their names.

## Main definitions

* `RegistryEntry`: what a catalog says about one registry.
* `Catalog`: the entries by the names of their registries.
* `Access.forEntry`: the access to a registry of a catalog.
-/

namespace ImageSync

/-- What a catalog says about one registry. -/
structure RegistryEntry where
  /-- Tags and digests by repository; none means all tags. -/
  images : List (String × List String) := []
  /-- Patterns for tags by repository. -/
  patterns : List (String × String) := []
  credentials : Credentials := {}
  /-- Whether the registry has to be verified, if that was said. -/
  verify : Option Bool := none
  certDir : Option String := none
deriving DecidableEq, Repr, Inhabited

/-- The entries of a catalog by the names of their registries. -/
structure Catalog where
  registries : List (String × RegistryEntry) := []
deriving DecidableEq, Repr, Inhabited

/-- Whether a catalog has no entry. -/
def Catalog.isEmpty (c : Catalog) : Bool := c.registries.isEmpty

namespace RegistryEntry

/-- Whether an entry names no repository. -/
def namesNothing (e : RegistryEntry) : Bool := e.images.isEmpty && e.patterns.isEmpty

/-- Whether verification is skipped, if the entry says anything about it. -/
def skipVerify (e : RegistryEntry) : Option Bool := e.verify.map skipOfVerify

end RegistryEntry

/-- The access to a registry of a catalog. Certificates and verification are always those of the
entry, credentials are if it has any. -/
def Access.forEntry (base : Access) (e : RegistryEntry) : Access :=
  { base with
    certDir := e.certDir
    daemonCertDir := e.certDir
    skipVerify := e.skipVerify
    daemonSkipVerify := e.skipVerify == some true
    credentials := if e.credentials.isEmpty then base.credentials else some e.credentials }

@[simp] theorem Access.certDir_forEntry (base : Access) (e : RegistryEntry) :
    (base.forEntry e).certDir = e.certDir := rfl

@[simp] theorem Access.skipVerify_forEntry (base : Access) (e : RegistryEntry) :
    (base.forEntry e).skipVerify = e.skipVerify := rfl

end ImageSync
