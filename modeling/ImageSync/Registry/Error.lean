/-!
# Errors of a registry

Why a registry did not answer as asked.

## Main definitions

* `RegistryError`, `RegistryError.message`: the causes and their wording.
* `RegistryError.isTransient`: whether another attempt may help.
* `RegistryError.isRefusal`: whether the registry refused access.
-/

namespace ImageSync

/-- Why a registry did not answer as asked. -/
inductive RegistryError where
  /-- Access was refused. -/
  | refused (text : String)
  /-- There is no such repository. -/
  | unknownRepository (text : String)
  /-- The answer has another status. -/
  | status (code : Nat) (text : String)
  /-- There was no answer. -/
  | network (text : String)
  /-- The answer did not come in time. -/
  | timeout (text : String)
  /-- The answer is not what was asked for. -/
  | badResponse (text : String)
  /-- Credentials were asked for in an unknown way. -/
  | badChallenge (text : String)
  /-- The connection cannot be made secure as asked. -/
  | certificates (text : String)
  /-- The request was broken off. -/
  | cancelled
deriving DecidableEq, Repr

namespace RegistryError

/-- The wording of a cause. -/
def message : RegistryError → String
  | refused s => "unauthorized: " ++ s
  | unknownRepository s => "repository not found: " ++ s
  | status code s => "registry returned HTTP " ++ toString code ++ ": " ++ s
  | network s => "network error: " ++ s
  | timeout s => "request timed out: " ++ s
  | badResponse s => "invalid registry response: " ++ s
  | badChallenge s => "invalid authentication challenge: " ++ s
  | certificates s => "TLS configuration error: " ++ s
  | cancelled => "operation cancelled"

/-- Whether another attempt may help: the network failed, the registry is busy or broken. -/
def isTransient : RegistryError → Bool
  | network _ => true
  | timeout _ => true
  | status code _ => code == 429 || decide (500 ≤ code)
  | _ => false

/-- Whether the registry refused access. -/
def isRefusal : RegistryError → Bool
  | refused _ => true
  | _ => false

end RegistryError

end ImageSync
