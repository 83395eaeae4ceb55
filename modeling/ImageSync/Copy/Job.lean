import ImageSync.Access
import ImageSync.Copy.Options
import ImageSync.Image
import ImageSync.Transport

/-!
# Copy jobs

One image to copy, with everything the copy needs.
-/

namespace ImageSync

/-- One image to copy. -/
structure CopyJob where
  source : Image
  destination : Image
  sourceAccess : Access
  destinationAccess : Access
  options : CopyOptions
deriving DecidableEq, Repr

end ImageSync
