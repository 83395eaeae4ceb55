import ImageSync.Text.Quoted
import ImageSync.Text.Split

/-!
# Access to a registry

How one side of a copy connects to its registry: certificates, verification of the peer, and what
it presents to be let in.

## Main definitions

* `Credentials`: a user name and a password.
* `Access`: the settings of one side.
* `Access.presented`: the credentials that are shown to a registry.
-/

namespace ImageSync

open Text

/-- A user name and a password. -/
structure Credentials where
  username : String := ""
  password : String := ""
deriving DecidableEq, Repr, Inhabited

namespace Credentials

/-- Whether neither name nor password is set. -/
def isEmpty (c : Credentials) : Bool := c.username.isEmpty && c.password.isEmpty

/-- Reads `name` or `name:password`; the name must not be empty. -/
def parse? (input : String) : Option Credentials :=
  match splitFirst ':' input.toList with
  | some ([], _) => none
  | some (name, password) => some ⟨String.ofList name, String.ofList password⟩
  | none => if input.isEmpty then none else some ⟨input, ""⟩

/-- What stands in diagnostics in place of a secret. -/
def redacted : String := "[REDACTED]"

/-- The credentials as diagnostics show them, without the password. -/
def shown (c : Credentials) : String :=
  "Credentials \x7b username: " ++ quoted c.username ++ ", password: " ++ quoted redacted ++ " \x7d"

end Credentials

/-- A registry token as diagnostics show it. -/
def shownToken : String := "RegistryToken(" ++ Credentials.redacted ++ ")"

/-- The flag "do not verify the peer" that belongs to the setting "verify the peer". -/
def skipOfVerify (verify : Bool) : Bool := !verify

/-- The settings with which one side of a copy connects. -/
structure Access where
  /-- A directory with further root certificates. -/
  certDir : Option String := none
  /-- The same for connections to a container daemon. -/
  daemonCertDir : Option String := none
  /-- Whether verification of the peer is skipped, if that was said. -/
  skipVerify : Option Bool := none
  /-- The same for connections to a container daemon. -/
  daemonSkipVerify : Bool := false
  credentials : Option Credentials := none
  /-- A token issued beforehand. -/
  token : Option String := none
  /-- Whether no credentials are presented even if there are some. -/
  anonymous : Bool := false
deriving DecidableEq, Repr, Inhabited

namespace Access

/-- The credentials that are presented. -/
def presented (a : Access) : Option Credentials :=
  if a.anonymous then none else a.credentials.filter fun c => !c.isEmpty

/-- Whether the peer is not verified; by default it is. -/
def skipsVerification (a : Access) : Bool := a.skipVerify.getD false

@[simp] theorem presented_of_anonymous {a : Access} (h : a.anonymous = true) :
    a.presented = none := by
  simp [presented, h]

end Access

end ImageSync
