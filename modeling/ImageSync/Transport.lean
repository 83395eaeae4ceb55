/-!
# Transports

Where images are read from and where they are written to.

## Main definitions

* `SourceTransport`, `DestinationTransport`: the kinds of places, with their names.
* `areCompatible`: the pairs between which images can be copied.
-/

namespace ImageSync

/-- The two sides of a copy. -/
inductive Side where
  | source
  | destination
deriving DecidableEq, Repr

/-- The name of a side in messages. -/
def Side.name : Side → String
  | .source => "source"
  | .destination => "destination"

/-- Where images are read from. -/
inductive SourceTransport where
  /-- One repository of a registry. -/
  | registry
  /-- A directory tree with exported images. -/
  | folder
  /-- The repositories that a catalog file lists. -/
  | catalog
deriving DecidableEq, Repr

/-- Where images are written to. -/
inductive DestinationTransport where
  /-- Repositories of a registry. -/
  | registry
  /-- Directories, one for each image. -/
  | folder
deriving DecidableEq, Repr

/-- The transport of that name. -/
def SourceTransport.ofName? (name : String) : Option SourceTransport :=
  if name = "docker" ∨ name = "registry" then some .registry
  else if name = "dir" ∨ name = "directory" then some .folder
  else if name = "yaml" then some .catalog
  else none

/-- The usual name of a transport. -/
def SourceTransport.name : SourceTransport → String
  | .registry => "docker"
  | .folder => "dir"
  | .catalog => "yaml"

/-- The transport of that name. -/
def DestinationTransport.ofName? (name : String) : Option DestinationTransport :=
  if name = "docker" ∨ name = "registry" then some .registry
  else if name = "dir" ∨ name = "directory" then some .folder
  else none

/-- The usual name of a transport. -/
def DestinationTransport.name : DestinationTransport → String
  | .registry => "docker"
  | .folder => "dir"

/-- Whether images can be copied between two transports. Directories are left to other tools. -/
def areCompatible (source : SourceTransport) (destination : DestinationTransport) : Bool :=
  !(source == .folder && destination == .folder)

theorem SourceTransport.ofName?_name (t : SourceTransport) : ofName? t.name = some t := by
  cases t <;> simp [ofName?, name]

theorem DestinationTransport.ofName?_name (t : DestinationTransport) :
    ofName? t.name = some t := by
  cases t <;> simp [ofName?, name]

end ImageSync
