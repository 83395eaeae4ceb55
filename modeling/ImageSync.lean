import ImageSync.Text.Sorted
import ImageSync.Json.Printer
import ImageSync.Files.Images
import ImageSync.Redaction
import ImageSync.Main
import ImageSync.Proofs.Run.Order
import ImageSync.Proofs.Reference.RoundTrip
import ImageSync.Proofs.Plan.Resolved
import ImageSync.Proofs.Export.Run
import ImageSync.Proofs.Plan.Cut
import ImageSync.Proofs.Run.Cancelled
import ImageSync.Proofs.Registry.Page
import ImageSync.Proofs.Registry.Reading
import ImageSync.Proofs.Registry.Complete
import ImageSync.Proofs.Registry.Redirected
import ImageSync.Proofs.Registry.Host
import ImageSync.Proofs.Registry.Revisit
import ImageSync.Proofs.Registry.Bounded
import ImageSync.Proofs.Plan.Accounts
import ImageSync.Proofs.Plan.Hosts
import ImageSync.Proofs.Files.Fresh
import ImageSync.Proofs.Export.Grown
import ImageSync.Proofs.Export.Untaken
import ImageSync.Proofs.Plan.Distinct
import ImageSync.Proofs.Destination.Below
import ImageSync.Proofs.Destination.Renamed
import ImageSync.Proofs.Run.Turns
import ImageSync.Proofs.Plan.Settings
import ImageSync.Proofs.Reference.Spelling
import ImageSync.Proofs.Registry.Onward
import ImageSync.Proofs.Registry.Shown
import ImageSync.Proofs.Run.Retried
import ImageSync.Proofs.Plan.Registry
import ImageSync.Proofs.Files.Ordered
import ImageSync.Proofs.Destination.Frame
import ImageSync.Proofs.Destination.Identity
import ImageSync.Proofs.Plan.Folder
import ImageSync.Proofs.Destination.Imported
import ImageSync.Proofs.Plan.Addressed
import ImageSync.Proofs.Registry.Links
import ImageSync.Proofs.Copy.Transient
import ImageSync.Proofs.Registry.Challenges
import ImageSync.Proofs.Text.Redacted
import ImageSync.Proofs.Plan.Tagged
import ImageSync.Proofs.Copy.Secrecy
import ImageSync.Proofs.Destination.Joined
import ImageSync.Proofs.Run.Counted
import ImageSync.Proofs.Text.Boundary
