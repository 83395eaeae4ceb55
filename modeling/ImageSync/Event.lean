import ImageSync.Json.Basic
import ImageSync.Log

/-!
# Events

What happens while a synchronisation is planned and carried out, for those who watch it.

## Main definitions

* `Event`, `SkipReason`: the events, and why a repository gives nothing.
* `Event.json`: an event as data.
* `Event.logLine`: an event as a line of the log.
-/

namespace ImageSync

/-- Why a repository of a catalog gives no image. -/
inductive SkipReason where
  /-- Its name is no repository name. -/
  | badName (detail : String)
  /-- Its pattern is no regular expression. -/
  | badPattern (detail : String)
  /-- Its tags cannot be listed. -/
  | listingFailed (detail : String)
  /-- Nothing is left of it. -/
  | nothingFound
deriving DecidableEq, Repr

namespace SkipReason

/-- Whether something is wrong with the repository; having nothing to copy is not. -/
def isError : SkipReason → Bool
  | nothingFound => false
  | _ => true

/-- The wording of a reason. -/
def message : SkipReason → String
  | badName e => "error parsing repository name: " ++ e
  | badPattern e => "error parsing regex: " ++ e
  | listingFailed e => "error processing repo: " ++ e
  | nothingFound => "no refs to sync found"

/-- A reason as data. -/
def json : SkipReason → Json
  | badName e => .object [("kind", .string "invalid_name"), ("detail", .string e)]
  | badPattern e => .object [("kind", .string "invalid_regex"), ("detail", .string e)]
  | listingFailed e => .object [("kind", .string "tag_listing_failed"), ("detail", .string e)]
  | nothingFound => .object [("kind", .string "no_refs_found")]

end SkipReason

/-- What happens during a synchronisation. -/
inductive Event where
  /-- A source was looked at for a tag or digest. -/
  | tagChecked (image : String) (tagged : Bool)
  /-- The tags of a repository are asked for. -/
  | listingTags (repository : String)
  /-- A registry refuses to list tags, which counts as having none. -/
  | listingDenied (repository reason : String)
  /-- A registry of a catalog names nothing. -/
  | registrySkipped (registry : String)
  /-- A repository of a catalog gives nothing. -/
  | repositorySkipped (registry repository : String) (reason : SkipReason)
  /-- A tag or digest of a catalog is malformed. -/
  | refSkipped (registry repository reference reason : String)
  /-- Tags are compared with a pattern. -/
  | filteringTags (repository pattern : String)
  /-- A repository of a catalog gives images. -/
  | repositoryPlanned (repository : String) (images : Nat)
  /-- An image is about to be copied. -/
  | copying (index total : Nat) (source destination : String)
  /-- All images have been copied. -/
  | finished (images sources : Nat)
deriving DecidableEq, Repr

namespace Event

/-- An object with the name of the event and its values. -/
private def tagged (name : String) (fields : List (String × Json)) : Json :=
  .object (("event", .string name) :: fields)

/-- An event as data. -/
def json : Event → Json
  | tagChecked image isTagged =>
    tagged "tag_presence_checked" [("image", .string image), ("tagged", .bool isTagged)]
  | listingTags repository => tagged "listing_tags" [("repository", .string repository)]
  | listingDenied repository reason =>
    tagged "tag_listing_denied" [("repository", .string repository), ("reason", .string reason)]
  | registrySkipped registry => tagged "registry_skipped" [("registry", .string registry)]
  | repositorySkipped registry repository reason =>
    tagged "repository_skipped"
      [("registry", .string registry), ("repository", .string repository), ("reason", reason.json)]
  | refSkipped registry repository reference reason =>
    tagged "ref_skipped" [("registry", .string registry), ("repository", .string repository),
      ("reference", .string reference), ("reason", .string reason)]
  | filteringTags repository pattern =>
    tagged "filtering_tags" [("repository", .string repository), ("regex", .string pattern)]
  | repositoryPlanned repository images =>
    tagged "repository_planned" [("repository", .string repository), ("images", .nat images)]
  | copying index total source destination =>
    tagged "copying" [("index", .nat index), ("total", .nat total), ("from", .string source),
      ("to", .string destination)]
  | finished images sources =>
    tagged "finished" [("images", .nat images), ("sources", .nat sources)]

/-- An event as a line of the log. -/
def logLine : Event → LogLine
  | tagChecked image isTagged =>
    .withValues .info "Tag presence check"
      [("imagename", image), ("tagged", if isTagged then "true" else "false")]
  | listingTags repository => .withValues .info "Getting tags" [("image", repository)]
  | listingDenied repository reason =>
    .withValues .warn ("Registry disallows tag list retrieval: " ++ reason) [("image", repository)]
  | registrySkipped registry =>
    .withValues .warn "No images specified for registry" [("registry", registry)]
  | repositorySkipped registry repository reason =>
    let values := [("registry", registry), ("repo", repository)]
    if reason.isError then .withValues .error ("Skipping repo: " ++ reason.message) values
    else .withValues .warn "No refs to sync found" values
  | refSkipped registry repository reference reason =>
    .withValues .error ("Error processing ref, skipping: " ++ reason)
      [("registry", registry), ("repo", repository), ("reference", reference)]
  | filteringTags repository pattern =>
    .withValues .info ("Start filtering using the regular expression: " ++ pattern)
      [("repo", repository)]
  | repositoryPlanned repository images =>
    .withValues .debug "Repository planned" [("repo", repository), ("images", toString images)]
  | copying index total source destination =>
    .withValues .info ("Copying image ref " ++ toString index ++ "/" ++ toString total)
      [("from", source), ("to", destination)]
  | finished images sources =>
    ⟨.info, "Synced " ++ toString images ++ " images from " ++ toString sources ++ " sources"⟩

end Event

end ImageSync
