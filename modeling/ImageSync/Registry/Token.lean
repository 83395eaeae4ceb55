import ImageSync.Http.Network
import ImageSync.Json.Outline
import ImageSync.Redaction

/-!
# Tokens

A registry that asks for a token names the place that gives it out. Whoever has credentials shows
them there and nowhere else; without credentials a token for everybody is given out.

## Main definitions

* `Talk σ α`: a talk with servers, which may fail.
* `Talk.ask`, `Talk.note`: a request and a line of the log as parts of a talk.
* `Token.request`: the request for a token.
* `Token.fetch`: asks for a token.
-/

namespace ImageSync

open Http

/-- A talk with servers that changes the state of the network and may fail. -/
abbrev Talk (σ : Type) := ExceptT RegistryError (StateM σ)

/-- The answer to a request as a part of a talk. -/
def Talk.ask {σ : Type} (n : Network σ) (r : Request) : Talk σ (Except Unanswered Response) :=
  fun s =>
    let (answer, s) := n.send r s
    (.ok answer, s)

/-- A line of the log as a part of a talk. -/
def Talk.note {σ : Type} (n : Network σ) (level : Level) (text : String) : Talk σ Unit :=
  fun s => (.ok (), n.note ⟨level, text⟩ s)

namespace Token

/-- What may be done with a token if the registry does not say it. -/
def defaultScope (repositoryPath : String) : String := "repository:" ++ repositoryPath ++ ":pull"

/-- The request for a token, unless the realm is no address or one without host. -/
def request (realm : String) (service scope : Option String) (repositoryPath : String)
    (credentials : Option Credentials) : Except Unanswered Request :=
  match Uri.ofString realm with
  | .error _ => .error .badRequest
  | .ok uri =>
    if uri.host.isNone then .error (.badAddress uri)
    else
      let uri := uri.withField "scope" (scope.getD (defaultScope repositoryPath))
      let uri := match service with
        | some s => uri.withField "service" s
        | none => uri
      .ok (Request.get uri (credentials.map .basic) "*/*")

/-- A text or nothing. -/
def optionalText? : Json → Option (Option String)
  | .null => some none
  | .string s => some (some s)
  | _ => none

/-- The token in the body of an answer. -/
def ofBody (body : List UInt8) : Except RegistryError String :=
  let names := ["token", "access_token"]
  let read (name : String) (o : Json.Outline) : Option (Option String) :=
    (o.member? names name).bind optionalText?
  match (Json.outline? body).bind fun o =>
      (read "token" o).bind fun a => (read "access_token" o).map fun b => a <|> b with
  | none => .error (.badResponse "error decoding response body")
  | some token =>
    match token.filter (· ≠ "") with
    | some t => .ok t
    | none => .error (.badResponse "token response carried no token")

/-- The token of an answer. -/
def ofResponse (r : Response) : Except RegistryError String :=
  if r.status = 401 ∨ r.status = 403 then
    .error (.refused ("token request rejected with HTTP " ++ toString r.status))
  else if !r.isSuccess then .error (.status r.status "token request failed")
  else r.wholeBody.bind ofBody

/-- Asks for a token. -/
def fetch {σ : Type} (n : Network σ) (realm : String) (service scope : Option String)
    (repositoryPath : String) (credentials : Option Credentials) : Talk σ String := do
  Talk.note n .debug ("Requesting registry token from " ++ redactUrl realm)
  match request realm service scope repositoryPath credentials with
  | .error f => throw f.registryError
  | .ok r =>
    match ← Talk.ask n r with
    | .error f => throw f.registryError
    | .ok answer => ofResponse answer

end Token

end ImageSync
