import ImageSync.Catalog.Error
import ImageSync.Copy.Error
import ImageSync.Reference.Basic
import ImageSync.Registry.Error
import ImageSync.Transport

/-!
# Errors of a synchronisation

Why a synchronisation ended before all images were copied.

## Main definitions

* `SyncError`, `SyncError.message`: the causes and their wording.
* `SyncError.isTransient`: whether another attempt may help.
* `SyncError.causes`: the errors below one.
-/

namespace ImageSync

/-- Why a synchronisation ended early. -/
inductive SyncError where
  /-- There is no such transport. -/
  | unknownTransport (name : String) (side : Side)
  /-- The source directory cannot be used. -/
  | badSource (path : String) (cause : SystemError)
  /-- The source names no image. -/
  | noImages (source : String)
  /-- Images cannot be copied between these transports. -/
  | incompatible
  /-- The directory for an image exists already. -/
  | destinationExists (path : String)
  /-- The path for an image leads nowhere a directory could be. -/
  | destinationUnusable (path : String) (cause : SystemError)
  /-- The directory for an image cannot be created. -/
  | destinationNotCreated (path : String) (cause : SystemError)
  /-- The search for images failed at a directory. -/
  | search (root path : String) (cause : SystemError)
  /-- The tags of a repository cannot be listed. -/
  | listing (repository : String) (cause : RegistryError)
  /-- An image cannot be copied. -/
  | copying (image : String) (cause : CopyError)
  | settings (cause : SettingsError)
  | reference (cause : ReferenceError)
  /-- The synchronisation was broken off. -/
  | cancelled
deriving DecidableEq, Repr

namespace SyncError

/-- The wording of a failed search for images. -/
def searchFailure (path : String) (e : SystemError) : String :=
  "IO error for operation on " ++ path ++ ": " ++ e.message

/-- The wording of a cause. -/
def message : SyncError → String
  | unknownTransport name side =>
    "\"" ++ name ++ "\" is not a valid " ++ side.name ++ " transport"
  | badSource path e => "Invalid source directory specified '" ++ path ++ "': " ++ e.message
  | noImages source => "No images to sync found in \"" ++ source ++ "\""
  | incompatible => "sync from 'dir' to 'dir' not implemented, consider using rsync instead"
  | destinationExists path => "Refusing to overwrite destination directory '" ++ path ++ "'"
  | destinationUnusable path e =>
    "Destination directory '" ++ path ++ "' could not be used: " ++ e.message
  | destinationNotCreated path e =>
    "Error creating directory for image '" ++ path ++ "': " ++ e.message
  | search root path e => "Error walking the path '" ++ root ++ "': " ++ searchFailure path e
  | listing repository e =>
    "Error determining repository tags for image " ++ repository ++ ": " ++ e.message
  | copying image e => "Error copying ref \"" ++ image ++ "\": " ++ e.message
  | settings e => "Configuration error: " ++ e.message
  | reference e => "Invalid image reference: " ++ e.message
  | cancelled => "Sync cancelled"

/-- Whether another attempt may help. -/
def isTransient : SyncError → Bool
  | listing _ e => e.isTransient
  | copying _ e => e.isTransient
  | _ => false

/-- The wordings of the errors below this one, from the nearest on. -/
def causes : SyncError → List String
  | badSource _ e => [e.message]
  | destinationUnusable _ e => [e.message]
  | destinationNotCreated _ e => [e.message]
  | search _ path e => [searchFailure path e, e.message]
  | listing _ e => [e.message]
  | copying _ e => e.message :: e.causes
  | settings e => e.message :: e.causes
  | reference e => [e.message]
  | _ => []

end SyncError

end ImageSync
