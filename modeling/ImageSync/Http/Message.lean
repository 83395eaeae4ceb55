import ImageSync.Access
import ImageSync.Text.Base64
import ImageSync.Uri.Basic

/-!
# Messages

What is sent to a server and what comes back. A user that stands in an address is not sent there but
as an authorization.

## Main definitions

* `Authorization`, `Request`, `Response`: the data.
* `Request.get uri authorization`: asks for a page.
* `Response.header? r name`: a header as text.
-/

namespace ImageSync.Http

open Text

/-- Who asks. -/
inductive Authorization where
  /-- The owner of a token. -/
  | bearer (token : String)
  /-- A user with a password. -/
  | basic (credentials : Credentials)
deriving DecidableEq, Repr

namespace Authorization

/-- The text of the header. -/
def headerText : Authorization → List Char
  | bearer token => "Bearer ".toList ++ token.toList
  | basic c =>
    "Basic ".toList ++ Base64.encode (Utf8.encode (c.username.toList ++ ':' :: c.password.toList))

/-- Whether the header can be sent: it has no control characters but tabs. -/
def isSendable (a : Authorization) : Bool :=
  a.headerText.all fun c => (' ' ≤ c || c == '\t') && c ≠ '\x7f'

end Authorization

/-- The question for a page. -/
structure Request where
  /-- The address of the page, without a user. -/
  uri : Uri
  /-- Who asks; several headers may say so. -/
  authorization : List Authorization
  /-- The form in which the page is wanted. -/
  accept : String
deriving DecidableEq, Repr

/-- The user that stands in an address. -/
def userOf? (uri : Uri) : Option Authorization :=
  let plain (s : String) : String := String.ofList (Utf8.decodeLossy (Uri.unescape s.toList))
  if uri.hasUser then some (.basic ⟨plain uri.user, plain uri.password⟩) else none

/-- The question for the page at an address. -/
def Request.get (uri : Uri) (authorization : Option Authorization) (accept : String) : Request where
  uri := uri.withoutUser
  authorization := (userOf? uri).toList ++ authorization.toList
  accept := accept

/-- How the body of an answer ends. -/
inductive BodyEnd where
  /-- With its last byte. -/
  | whole
  /-- The connection ends before that. -/
  | broken
  /-- The last byte does not come in time. -/
  | late
deriving DecidableEq, Repr

/-- The answer to a question. -/
structure Response where
  status : Nat
  /-- The headers in order, with their names in lower case. -/
  headers : List (String × List UInt8) := []
  body : List UInt8 := []
  bodyEnd : BodyEnd := .whole
deriving DecidableEq, Repr

namespace Response

/-- The first header of a name, if it is plain text. -/
def header? (r : Response) (name : String) : Option String :=
  match r.headers.lookup name with
  | none => none
  | some bytes =>
    if bytes.all fun b => b = 9 || (32 ≤ b && b ≤ 126) then
      some (String.ofList (bytes.map Utf8.charOfByte))
    else none

/-- Whether the answer is what was asked for. -/
def isSuccess (r : Response) : Bool := 200 ≤ r.status && r.status ≤ 299

/-- The body as text, empty if there is only a part of it. -/
def bodyText (r : Response) : List Char :=
  if r.bodyEnd = .whole then Utf8.decodeLossy r.body else []

end Response

@[simp] theorem get_uri (uri : Uri) (a : Option Authorization) (accept : String) :
    (Request.get uri a accept).uri = uri.withoutUser := rfl

end ImageSync.Http
