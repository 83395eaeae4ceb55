import ImageSync.SystemError

/-!
# Errors of settings

Why a catalog file or an option cannot be used.
-/

namespace ImageSync

/-- Why a setting cannot be used. -/
inductive SettingsError where
  /-- The catalog file cannot be read. -/
  | unreadable (path : String) (cause : SystemError)
  /-- The catalog file is no catalog. -/
  | malformed (path : String)
  /-- There is no such manifest format. -/
  | badFormat (name : String)
  /-- Credentials are malformed or contradict another option. -/
  | badCredentials (text : String)
deriving DecidableEq, Repr

namespace SettingsError

/-- The wording of a cause. -/
def message : SettingsError → String
  | unreadable path e => "Failed to read config file '" ++ path ++ "': " ++ e.message
  | malformed path => "Failed to unmarshal \"" ++ path ++ "\""
  | badFormat name =>
    "Invalid manifest format \"" ++ name ++ "\" (expected one of: oci, v2s1, v2s2)"
  | badCredentials text => "Invalid credentials: " ++ text

/-- The errors below this one. -/
def causes : SettingsError → List String
  | unreadable _ e => [e.message]
  | _ => []

end SettingsError

end ImageSync
