import ImageSync.Uri.Host

/-!
# Addresses

An address has a scheme, perhaps a host with a user and a number of a port, a path, a query and a
fragment. The schemes whose form is known always have a host and a path that starts at its root.

## Main definitions

* `Uri`, `Uri.text`: an address, and how it is written.
* `Uri.pathText`: the path alone.
* `Uri.withScheme`, `Uri.withoutUser`, `Uri.withField`: addresses made of others.
-/

namespace ImageSync

namespace Uri

/-- The path of an address. -/
inductive PathPart where
  /-- Text that does not start at a root. -/
  | rootless (text : String)
  /-- Names behind one slash each. -/
  | segments (names : List String)
deriving DecidableEq, Repr

/-- A path as it is written. -/
def PathPart.text : PathPart → String
  | rootless s => s
  | segments names => String.join (names.map ("/" ++ ·))

/-- Whether the form of a scheme is known. -/
def isSpecialScheme (scheme : String) : Bool :=
  ["http", "https", "ws", "wss", "ftp", "file"].contains scheme

/-- The number of the port that need not be written. -/
def defaultPort? : String → Option Nat
  | "http" => some 80
  | "https" => some 443
  | "ws" => some 80
  | "wss" => some 443
  | "ftp" => some 21
  | _ => none

end Uri

/-- An address. User, password, path, query and fragment are escaped. -/
structure Uri where
  scheme : String
  user : String := ""
  password : String := ""
  host : Option Uri.Host := none
  /-- The number of the port, unless it need not be written. -/
  tcpPort : Option Nat := none
  path : Uri.PathPart := .segments []
  query : Option String := none
  fragment : Option String := none
deriving DecidableEq, Repr

namespace Uri

/-- Whether the form of the address is known from its scheme. -/
def isSpecial (u : Uri) : Bool := isSpecialScheme u.scheme

/-- Whether a user or a password is given. -/
def hasUser (u : Uri) : Bool := u.user ≠ "" || u.password ≠ ""

/-- The path as it is written. -/
def pathText (u : Uri) : String := u.path.text

/-- The names of the path; there are none without a root. -/
def segments (u : Uri) : List String :=
  match u.path with
  | .rootless _ => []
  | .segments names => names

/-- The user in front of the host. -/
def userText (u : Uri) : String :=
  if u.hasUser then u.user ++ (if u.password = "" then "" else ":" ++ u.password) ++ "@" else ""

/-- Host and port with the two slashes in front. -/
def authorityText (u : Uri) : String :=
  match u.host, u.path with
  | some h, _ => "//" ++ u.userText ++ h.text ++ ((u.tcpPort.map fun n => ":" ++ toString n).getD "")
  | none, .segments ("" :: _ :: _) => "/."
  | none, _ => ""

/-- The address as it is written. -/
def text (u : Uri) : String :=
  u.scheme ++ ":" ++ u.authorityText ++ u.pathText ++ ((u.query.map ("?" ++ ·)).getD "") ++
    ((u.fragment.map ("#" ++ ·)).getD "")

/-- The number of the port that a connection is made to. -/
def effectivePort? (u : Uri) : Option Nat := u.tcpPort <|> defaultPort? u.scheme

/-- The number of a port, left out where it need not be written. -/
def shortPort (scheme : String) (n : Option Nat) : Option Nat :=
  if n = defaultPort? scheme then none else n

/-- The same address with another scheme. -/
def withScheme (u : Uri) (scheme : String) : Uri :=
  { u with scheme := scheme, tcpPort := shortPort scheme u.tcpPort }

/-- The same address without user and password. -/
def withoutUser (u : Uri) : Uri := { u with user := "", password := "" }

/-- The address with one more field in its query. -/
def withField (u : Uri) (name value : String) : Uri :=
  let field := String.ofList (formField name.toList ++ '=' :: formField value.toList)
  let query := match u.query with
    | none => field
    | some "" => field
    | some q => q ++ "&" ++ field
  { u with query := some query }

@[simp] theorem withScheme_host (u : Uri) (scheme : String) :
    (u.withScheme scheme).host = u.host := rfl
@[simp] theorem withScheme_scheme (u : Uri) (scheme : String) :
    (u.withScheme scheme).scheme = scheme := rfl
@[simp] theorem withScheme_path (u : Uri) (scheme : String) :
    (u.withScheme scheme).path = u.path := rfl
@[simp] theorem withoutUser_host (u : Uri) : u.withoutUser.host = u.host := rfl
@[simp] theorem hasUser_withoutUser (u : Uri) : u.withoutUser.hasUser = false := rfl

end Uri

end ImageSync
