import ImageSync.Http.Message
import ImageSync.Log
import ImageSync.Registry.Error
import ImageSync.Uri.Parser

/-!
# Networks

A network answers requests, as a function of its own state, and keeps what is said about them. A
request may get no answer for several reasons, and of an answer only a part. An answer may send the
asker on to another address; this is followed a limited number of times.

## Main definitions

* `Unanswered`: why there is no answer.
* `Response.wholeBody r`: the body of an answer, unless there is only a part of it.
* `Network`: what answers requests.
* `Network.send`: sends a request that can be sent.
* `Network.following`: the network that follows answers which send the asker on.
* `Network.down`: the network in which no connection is made.
-/

namespace ImageSync.Http

/-- Why there is no answer. -/
inductive Unanswered where
  /-- The request cannot be written. -/
  | badRequest
  /-- The address is not one of a page. -/
  | badAddress (uri : Uri)
  /-- No connection is made. -/
  | noConnection (uri : Uri)
  /-- No connection is made in time. -/
  | lateConnection (uri : Uri)
  /-- The connection ends without an answer. -/
  | noAnswer (uri : Uri)
  /-- The answer does not come in time. -/
  | timeout (uri : Uri)
  /-- The asker is sent on too often. -/
  | tooManySteps (uri : Uri)
deriving DecidableEq, Repr

namespace Unanswered

/-- What is said of an address. -/
def atAddress (text : String) (uri : Uri) : String := text ++ " for url (" ++ uri.text ++ ")"

/-- The wording of a cause. -/
def message : Unanswered → String
  | badRequest => "builder error"
  | badAddress uri => atAddress "builder error" uri
  | noConnection uri => atAddress "error sending request" uri
  | lateConnection uri => atAddress "error sending request" uri
  | noAnswer uri => atAddress "error sending request" uri
  | timeout uri => atAddress "error sending request" uri
  | tooManySteps uri => atAddress "error following redirect" uri

/-- The failure as an error of a registry. -/
def registryError : Unanswered → RegistryError
  | lateConnection uri => .timeout (lateConnection uri).message
  | timeout uri => .timeout (timeout uri).message
  | f => .network f.message

/-- Whether no connection was made. -/
def isNoConnection : Unanswered → Bool
  | noConnection _ => true
  | lateConnection _ => true
  | _ => false

end Unanswered

/-- The body of an answer, unless there is only a part of it. -/
def Response.wholeBody (r : Response) : Except RegistryError (List UInt8) :=
  match r.bodyEnd with
  | .whole => .ok r.body
  | .broken => .error (.badResponse "error decoding response body")
  | .late => .error (.timeout "error decoding response body")

/-- What answers requests. -/
structure Network (σ : Type) where
  exchange : Request → σ → Except Unanswered Response × σ
  /-- Keeps a line of the log. -/
  note : LogLine → σ → σ := fun _ s => s

namespace Network

variable {σ : Type}

/-- What is wrong with a request before it is sent. -/
def fault? (r : Request) : Option Unanswered :=
  if r.uri.host.isNone then some (.badAddress r.uri)
  else if !r.authorization.all Authorization.isSendable then some .badRequest
  else if r.uri.scheme ≠ "http" ∧ r.uri.scheme ≠ "https" then some (.badAddress r.uri)
  else none

/-- Sends a request, unless it cannot be sent. -/
def send (n : Network σ) (r : Request) (s : σ) : Except Unanswered Response × σ :=
  match fault? r with
  | some f => (.error f, s)
  | none => n.exchange r s

theorem send_of_fault (n : Network σ) {r : Request} {f : Unanswered} (h : fault? r = some f) (s : σ) :
    n.send r s = (.error f, s) := by
  simp [send, h]

theorem send_of_sendable (n : Network σ) {r : Request} (h : fault? r = none) (s : σ) :
    n.send r s = n.exchange r s := by
  simp [send, h]

/-- The network in which no connection is made. -/
def down (σ : Type) : Network σ where
  exchange r s := (.error (.noConnection r.uri), s)

/-- How often an asker is sent on. -/
def maxSteps : Nat := 10

/-- Whether an answer with this status may send the asker on. -/
def isStep (status : Nat) : Bool := [301, 302, 303, 307, 308].contains status

/-- The text of the address that an answer names. -/
def stepTarget? (answer : Response) : Option String :=
  ((answer.headers.lookup "location").bind Text.Utf8.decode?).map String.ofList

/-- The request that an answer sends the asker on to. The authorization is kept only where host and
port stay. -/
def nextRequest? (r : Request) (answer : Response) : Option Request :=
  if isStep answer.status then
    match (stepTarget? answer).map r.uri.join with
    | some (.ok uri) =>
      let stays := uri.host = r.uri.host ∧ uri.effectivePort? = r.uri.effectivePort?
      some { r with
        uri := uri.withoutUser, authorization := if stays then r.authorization else [] }
    | _ => none
  else none

/-- The exchanges for one request with at most `steps` steps to other addresses. -/
def follow (n : Network σ) : (steps : Nat) → Request → σ → Except Unanswered Response × σ
  | steps, r, s =>
    match n.send r s with
    | (.error f, s) => (.error f, s)
    | (.ok answer, s) =>
      match nextRequest? r answer, steps with
      | none, _ => (.ok answer, s)
      | some next, 0 => (.error (.tooManySteps next.uri), s)
      | some next, steps + 1 => follow n steps next s

/-- The network that follows answers which send the asker on. -/
def following (n : Network σ) : Network σ := { n with exchange := n.follow maxSteps }

end Network

end ImageSync.Http
