import ImageSync.Uri.Basic

/-!
# Reading addresses

An address is read on its own or against a base, which gives the parts that it leaves out. Control
characters and spaces at the ends and tabs and line ends anywhere count for nothing. In the schemes
with a known form a backslash counts as a slash. Dots in a path are steps and are carried out.

## Main definitions

* `Uri.parse base s`: the address that a text stands for.
* `Uri.ofString s`, `Uri.join base s`: without and with a base.
-/

namespace ImageSync.Uri

open Text

/-! ## Paths -/

/-- Whether a character stands between the names of a path. -/
def isSlash (isSpecial : Bool) (c : Char) : Bool := c == '/' || (isSpecial && c == '\\')

/-- A name with its escaped dots as dots. -/
def withPlainDots : List Char → List Char
  | '%' :: '2' :: 'e' :: rest => '.' :: withPlainDots rest
  | '%' :: '2' :: 'E' :: rest => '.' :: withPlainDots rest
  | c :: rest => c :: withPlainDots rest
  | [] => []

/-- Whether a name is a letter of a drive: a letter and a colon or a bar. -/
def isDrive : List Char → Bool
  | [a, c] => a.isAlpha && (c == ':' || c == '|')
  | _ => false

/-- Whether a name is a letter of a drive with its colon. -/
def isPlainDrive (name : String) : Bool := isDrive name.toList && name.toList.getLast? == some ':'

/-- The path one step up. The letter of a drive stays. -/
def stepUp (isFile : Bool) (names : List String) : List String :=
  match names with
  | [name] => if isFile && isPlainDrive name then names else []
  | _ => names.dropLast

/-- The path one name on. Dots are steps; at the end they leave an empty name. -/
def addName (isFile isLast : Bool) (names : List String) (name : List Char) : List String :=
  let closing : List String := if isLast then [""] else []
  if withPlainDots name = ['.', '.'] then stepUp isFile names ++ closing
  else if withPlainDots name = ['.'] then names ++ closing
  else if isFile && names.isEmpty && isDrive name then [String.ofList (name.take 1 ++ [':'])]
  else names ++ [String.ofList (escape isEscapedInPath name)]

/-- The path some names on. -/
def addNames (isFile : Bool) : List String → List (List Char) → List String
  | names, [] => names
  | names, [name] => addName isFile true names name
  | names, name :: rest => addNames isFile (addName isFile false names name) rest

/-- The texts between the slashes. -/
def namesOf (isSpecial : Bool) (cs : List Char) : List (List Char) :=
  splitOn '/' (cs.map fun c => if isSlash isSpecial c then '/' else c)

/-- The path that a text leads to from another path. A path of a file does not begin with empty
names. -/
def pathFrom (scheme : String) (start : List String) (cs : List Char) : PathPart :=
  let isFile := scheme == "file"
  let names := addNames isFile start (namesOf (isSpecialScheme scheme) cs)
  if isFile then
    match names.dropWhile (· == "") with
    | [] => .segments [""]
    | names => .segments names
  else .segments names

/-- The path behind a host. -/
def pathBehindHost (scheme : String) (cs : List Char) : PathPart :=
  match cs with
  | [] => if isSpecialScheme scheme then .segments [""] else .segments []
  | c :: rest =>
    if isSlash (isSpecialScheme scheme) c then pathFrom scheme [] rest else pathFrom scheme [] cs

/-! ## Hosts -/

/-- The parts before and after the first colon outside brackets. -/
def splitPort (inBrackets : Bool) : List Char → List Char × Option (List Char)
  | [] => ([], none)
  | c :: rest =>
    if c = ':' ∧ !inBrackets then ([], some rest)
    else
      let (host, digits) := splitPort (c = '[' || (inBrackets && c ≠ ']')) rest
      (c :: host, digits)

/-- The number of a port. -/
def readPort (scheme : String) (digits : List Char) : Except Error (Option Nat) :=
  if digits.isEmpty then .ok none
  else if !digits.all Char.isDigit then .error .badPort
  else
    match Host.numeral? 10 digits with
    | some n => if n ≤ 65535 then .ok (shortPort scheme (some n)) else .error .badPort
    | none => .error .badPort

/-- The host that a text stands for. -/
def readHost (scheme : String) (cs : List Char) : Except Error Host :=
  if isSpecialScheme scheme then
    if cs.isEmpty then .error .emptyHost else Host.parse cs
  else Host.parseVerbatim cs

/-- The address whose text goes on with user, host, port and path. -/
def readAuthority (scheme : String) (cs : List Char) : Except Error Uri := do
  let (authority, rest) := cs.span fun c => !isSlash (isSpecialScheme scheme) c
  let (user, hostAndPort) := match splitLast '@' authority with
    | some (u, h) => (some u, h)
    | none => (none, authority)
  let (name, password) := match splitFirst ':' (user.getD []) with
    | some (n, p) => (n, p)
    | none => (user.getD [], [])
  let (hostText, digits) := splitPort false hostAndPort
  if hostText.isEmpty && (digits.isSome || (user.isSome && !(user == some [] && rest.isEmpty))) then
    throw .emptyHost
  let host ← readHost scheme hostText
  let tcpPort ← readPort scheme (digits.getD [])
  return {
    scheme := scheme, user := String.ofList (escape isEscapedInUser name)
    password := String.ofList (escape isEscapedInUser password), host := some host
    tcpPort := tcpPort, path := pathBehindHost scheme rest }

/-! ## Files -/

/-- Whether a text begins with the letter of a drive. -/
def startsWithDrive (cs : List Char) : Bool :=
  isDrive (cs.take 2) && (cs.drop 2).head?.all (isSlash true)

/-- The address of a file. -/
def readFile (base : Option Uri) (cs : List Char) (query : Option String) : Except Error Uri := do
  let empty : Uri := { scheme := "file", host := some (.name ""), query := query }
  let above := base.getD empty
  match cs with
  | [] =>
    match base with
    | none => return { empty with path := .segments [""] }
    | some b => return { empty with host := b.host, path := b.path, query := query <|> b.query }
  | c :: rest =>
    if isSlash true c && rest.head?.any (isSlash true) then
      let (hostText, path) := (rest.drop 1).span fun c => !isSlash true c
      if isDrive hostText then return { empty with path := pathFrom "file" [] (rest.drop 1) }
      let host ← if hostText.isEmpty then pure (.name "") else Host.parse hostText
      let host := if host = .name "localhost" then .name "" else host
      return { empty with host := some host, path := pathBehindHost "file" path }
    else if isSlash true c then
      let start := if startsWithDrive rest then [] else (above.segments.take 1).filter isPlainDrive
      return { empty with host := above.host, path := pathFrom "file" start rest }
    else if startsWithDrive cs then return { empty with path := pathFrom "file" [] cs }
    else
      return { empty with
        host := above.host, path := pathFrom "file" (stepUp true above.segments) cs }

/-! ## All parts -/

/-- The address that a text without scheme stands for. -/
def readRelative (base : Uri) (cs : List Char) (query : Option String) : Except Error Uri := do
  match cs with
  | [] => return { base with query := query <|> base.query }
  | c :: rest =>
    if isSlash true c && rest.head?.any (isSlash true) then
      let behind := if c = '/' ∧ rest.head? = some '/' then rest.drop 1
        else cs.dropWhile (isSlash true)
      return { ← readAuthority base.scheme behind with query := query }
    else if isSlash true c then
      return { base with path := pathFrom base.scheme [] rest, query := query }
    else
      return { base with
        path := pathFrom base.scheme (stepUp false base.segments) cs, query := query }

/-- Whether a character belongs to a scheme. -/
def isSchemeChar (c : Char) : Bool := c.isAlphanum || c == '+' || c == '-' || c == '.'

/-- The scheme in lower case and what follows its colon. -/
def splitScheme (cs : List Char) : Option (String × List Char) :=
  match splitFirst ':' cs with
  | some (name, rest) =>
    if name.head?.any Char.isAlpha && name.all isSchemeChar then
      some (String.ofList (name.map Char.toLower), rest)
    else none
  | none => none

/-- The address that a text with a scheme stands for. -/
def readWithScheme (base : Option Uri) (scheme : String) (cs : List Char) (query : Option String) :
    Except Error Uri :=
  let sameScheme := base.filter fun b => b.scheme == scheme
  let slashes := (cs.takeWhile (isSlash true)).length
  if scheme = "file" then readFile sameScheme cs query
  else if isSpecialScheme scheme then
    match sameScheme with
    | some b =>
      if slashes < 2 then readRelative b cs query
      else (readAuthority scheme (cs.drop slashes)).map fun u => { u with query := query }
    | none => (readAuthority scheme (cs.drop slashes)).map fun u => { u with query := query }
  else
    match cs with
    | '/' :: '/' :: rest => (readAuthority scheme rest).map fun u => { u with query := query }
    | '/' :: rest => .ok { scheme := scheme, path := pathFrom scheme [] rest, query := query }
    | _ =>
      .ok { scheme := scheme, path := .rootless (String.ofList (escape isEscaped cs)), query := query }

/-- The address that a text stands for, up to its fragment. -/
def readUri (base : Option Uri) (front : List Char) (query : Option (List Char))
    (hasFragment : Bool) : Except Error Uri :=
  let shown (isSpecial : Bool) : Option String :=
    query.map fun q => String.ofList (escape (isEscapedInQuery isSpecial) q)
  match splitScheme front, base with
  | some (scheme, cs), _ => readWithScheme base scheme cs (shown (isSpecialScheme scheme))
  | none, none => .error .noBase
  | none, some b =>
    match b.path with
    | .rootless _ =>
      if front.isEmpty && query.isNone && hasFragment then .ok b else .error .baseWithoutPath
    | .segments _ =>
      if b.scheme = "file" then readFile (some b) front (shown true)
      else readRelative b front (shown b.isSpecial)

/-- A text without what counts for nothing. -/
def cleaned (cs : List Char) : List Char :=
  (trim (· ≤ ' ') cs).filter fun c => c ≠ '\t' && c ≠ '\n' && c ≠ '\r'

/-- The parts before and after the first `c`; without one all is before. -/
def cutAt (c : Char) (cs : List Char) : List Char × Option (List Char) :=
  match splitFirst c cs with
  | some (a, b) => (a, some b)
  | none => (cs, none)

/-- The address that a text stands for, read against a base. -/
def parse (base : Option Uri) (s : String) : Except Error Uri := do
  let (before, fragment) := cutAt '#' (cleaned s.toList)
  let (front, query) := cutAt '?' before
  let u ← readUri base front query fragment.isSome
  return { u with
    fragment := fragment.map fun f => String.ofList (escape isEscapedInFragment f) }

/-- The address that a text stands for on its own. -/
def ofString (s : String) : Except Error Uri := parse none s

/-- The address that a text stands for where another address is known. -/
def join (base : Uri) (s : String) : Except Error Uri := parse (some base) s

end ImageSync.Uri
