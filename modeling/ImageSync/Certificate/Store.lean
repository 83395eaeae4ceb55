import ImageSync.Access
import ImageSync.Certificate.Der
import ImageSync.Certificate.Pem
import ImageSync.Files.Tree
import ImageSync.Registry.Error

/-!
# Certificate directories

Further certificates to trust lie in a directory: the one of the settings, or the first directory of
the registry among those of the system. Every file in it with the extension `crt` has to hold
certificates.

## Main definitions

* `folder? tree systemFolders access host`: the directory with the certificates for a registry.
* `check tree folder`: whether all of its certificates can be trusted.
-/

namespace ImageSync.Certificate

open Text

/-- The directory with the certificates for the registry on a host. -/
def folder? (tree : FileTree) (systemFolders : List Path) (access : Access) (host : String) :
    Option Path :=
  match access.certDir with
  | some dir => some (Path.ofString dir)
  | none => (systemFolders.map (·.append (Path.ofString host))).find? tree.isFolder

/-- Whether a file is named like one with certificates. -/
def isNamedCertificate (name : Name) : Bool :=
  match splitLast (.char '.') name with
  | some (stem, extension) => !stem.isEmpty && extension = Path.ofString "crt"
  | none => false

/-- The bytes of a file that holds certificates. -/
def readFile (tree : FileTree) (path : Path) : Except RegistryError (List UInt8) :=
  match tree.read path with
  | .error e =>
    .error (.certificates ("Failed to read '" ++ path.shown ++ "': " ++ e.message))
  | .ok bytes =>
    if holdsCertificate bytes then .ok bytes
    else .error (.certificates ("'" ++ path.shown ++ "' holds no PEM certificate"))

/-- The files with certificates in a directory. There are none in a directory that does not
exist. -/
def files (tree : FileTree) (folder : Path) : Except RegistryError (List Path) :=
  match tree.list folder with
  | .ok entries =>
    .ok ((entries.map Prod.fst).filter isNamedCertificate |>.map folder.append)
  | .error .notFound => .ok []
  | .error e =>
    .error (.certificates
      ("Failed to read certificate directory '" ++ folder.shown ++ "': " ++ e.message))

/-- Whether a file holds nothing but certificates that can be trusted. -/
def isTrustable (bytes : List UInt8) : Bool :=
  match certificates? bytes with
  | some cs => cs.all isCertificate
  | none => false

/-- Refuses a directory in which some file cannot be read or holds no certificate, and one in which
some certificate cannot be trusted. -/
def check (tree : FileTree) (folder : Path) : Except RegistryError Unit := do
  let contents ← (← files tree folder).mapM (readFile tree)
  if contents.all isTrustable then return ()
  else throw (.certificates "Failed to create HTTP client")

end ImageSync.Certificate
