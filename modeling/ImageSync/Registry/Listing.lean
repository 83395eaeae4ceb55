import ImageSync.Certificate.Store
import ImageSync.Reference.Basic
import ImageSync.Registry.Challenge
import ImageSync.Registry.Link
import ImageSync.Registry.Token
import ImageSync.Text.Excerpt

/-!
# Tag lists

The tags of a repository come from its registry, page by page. A page that is refused is asked for
once more with what the registry wants to see. No page is read twice, and there is an end to the
number of pages. A connection that is not secure is used only if verification is skipped and no
secure one is made.

## Main definitions

* `Lister`: how registries are asked.
* `Lister.getPage`: one page of a list.
* `Lister.getPages`: a page and those that come behind it.
* `Lister.list`: the tags of a repository.
-/

namespace ImageSync

open Http

/-- How registries are asked for tags. -/
structure Lister where
  /-- Whether connections are not secure from the start. -/
  isPlain : Bool := false
  /-- Directories with a directory of certificates for each registry. -/
  systemFolders : List Path := ["/etc/containers/certs.d", "/etc/docker/certs.d"].map Path.ofString

/-- One page of a list, and what has to be shown for the next one. -/
structure TagPage where
  response : Response
  /-- The address that was asked for. The page can come from elsewhere, if the network follows answers
  that send the asker on. -/
  uri : Uri
  authorization : Option Authorization

namespace TagPage

/-- The tags in the body of a page; there may be none. -/
def tagsOf? (body : List UInt8) : Option (List String) := do
  match ← (← Json.outline? body).member? ["tags"] "tags" with
  | .null => some []
  | .array items => items.mapM Json.text?
  | _ => none

/-- The tags of a page. -/
def tags (page : TagPage) : Except RegistryError (List String) := do
  match tagsOf? (← page.response.wholeBody) with
  | some ts => return ts
  | none => throw (.badResponse "error decoding response body")

/-- The address of the page that a page names as the next one. -/
def next? (page : TagPage) : Option Uri :=
  (page.response.header? "link").bind (Link.nextPage? page.uri)

end TagPage

namespace Lister

variable {σ : Type}

/-- The most pages that are read for one list. -/
def maxPages : Nat := 1000

/-- The longest excerpt of a body that goes into an error, in bytes. -/
def maxExcerpt : Nat := 200

/-- The host that answers for a registry. -/
def apiHost (host : String) : String :=
  if host = Reference.defaultHost then "registry-1.docker.io" else host

/-- The address of the first page. -/
def firstPage (l : Lister) (repository : Reference) : Except RegistryError Uri :=
  let scheme := if l.isPlain then "http" else "https"
  match Uri.ofString
      (scheme ++ "://" ++ apiHost repository.host ++ "/v2/" ++ repository.path ++ "/tags/list") with
  | .ok uri => .ok uri
  | .error e => .error (.badResponse ("invalid registry URL: " ++ e.message))

/-- Whether a page may be asked for over a connection that is not secure. -/
def mayFallBack (access : Access) (uri : Uri) (f : Unanswered) : Bool :=
  f.isNoConnection && uri.scheme == "https" && access.skipVerify == some true

/-- The answer to the question for a page, and the address that was asked for at last. -/
def askPage (n : Network σ) (access : Access) (repository : Reference) (uri : Uri)
    (authorization : Option Authorization) : Talk σ (Response × Uri) := do
  let request (uri : Uri) : Request := .get uri authorization "application/json"
  match ← Talk.ask n (request uri) with
  | .ok answer => return (answer, uri)
  | .error f =>
    if mayFallBack access uri f then
      Talk.note n .warn ("HTTPS connection to " ++ repository.host ++ " failed (" ++ f.message ++
        "), falling back to HTTP")
      let uri := uri.withScheme "http"
      match ← Talk.ask n (request uri) with
      | .ok answer => return (answer, uri)
      | .error f => throw f.registryError
    else throw f.registryError

/-- What is shown to a registry that asked for it. -/
def meet (n : Network σ) (access : Access) (repository : Reference) (answer : Response) :
    Talk σ Authorization := do
  match answer.header? "www-authenticate" with
  | none => throw (.refused (repository.name ++ " requires authentication"))
  | some header =>
    match ← Challenge.parse header with
    | .bearer realm service scope =>
      return .bearer (← Token.fetch n realm service scope repository.path access.presented)
    | .basic =>
      match access.presented with
      | some c => return .basic c
      | none => throw (.refused (repository.name ++ " requires credentials"))

/-- Why an answer is not the page that was asked for. -/
def refusal (repository : Reference) (answer : Response) : RegistryError :=
  if answer.status = 401 ∨ answer.status = 403 then
    .refused ("access to " ++ repository.name ++ " denied (HTTP " ++ toString answer.status ++ ")")
  else if answer.status = 404 then .unknownRepository repository.name
  else .status answer.status (String.ofList (Text.Excerpt.head maxExcerpt answer.bodyText))

/-- One page of a list. -/
def getPage (n : Network σ) (access : Access) (repository : Reference) (uri : Uri)
    (authorization : Option Authorization) : Talk σ TagPage := do
  let (answer, uri) ← askPage n access repository uri authorization
  if answer.isSuccess then return ⟨answer, uri, authorization⟩
  else if answer.status = 401 then
    let authorization := some (← meet n access repository answer)
    let (answer, uri) ← askPage n access repository uri authorization
    if answer.isSuccess then return ⟨answer, uri, authorization⟩
    else throw (refusal repository answer)
  else throw (refusal repository answer)

/-- The tags of the page at an address and of those behind it. At most `left` pages are read, and
none that was visited. -/
def getPages (n : Network σ) (access : Access) (repository : Reference) :
    (left : Nat) → (visited : List Uri) → Uri → Option Authorization → Talk σ (List String)
  | left, visited, uri, authorization =>
    if uri ∈ visited then
      throw (.badResponse
        ("tag list pagination for " ++ repository.name ++ " revisits " ++ uri.pathText))
    else
      match left with
      | 0 =>
        throw (.badResponse
          ("tag list for " ++ repository.name ++ " exceeds " ++ toString maxPages ++ " pages"))
      | left + 1 => do
        let page ← getPage n access repository uri authorization
        let tags ← page.tags
        match page.next? with
        | none => return tags
        | some next =>
          Talk.note n .debug ("Following tag list pagination to " ++ next.pathText)
          return tags ++ (← getPages n access repository left (uri :: visited) next page.authorization)

/-- The tags of a repository. -/
def list (l : Lister) (n : Network σ) (tree : FileTree) (access : Access) (repository : Reference) :
    Talk σ (List String) := do
  match Certificate.folder? tree l.systemFolders access repository.host with
  | some folder => Certificate.check tree folder
  | none => pure ()
  let uri ← l.firstPage repository
  getPages n access repository maxPages [] uri (access.token.map .bearer)

end Lister

end ImageSync
