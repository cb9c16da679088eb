/-
Why settings could not be taken from a file.

What the reader of a TOML text says of one that it does not take is its own: it names the place and
shows the line.  So its words are part of the failure, beside what is wrong.
-/
import RealmRegistry.Files.Fault
import RealmRegistry.Schema.Toml
import RealmRegistry.Settings.Check

namespace RealmRegistry

open Schema

/-- Why there are no settings. -/
inductive SettingsFailure where
  /-- there is no such file -/
  | absent (path : String)
  | unreadable (cause : FileFault)
  /-- its text is no document of settings, which its reader says in these words -/
  | unfit {words : String} (cause : TomlComplaint)
  /-- the settings will not do -/
  | invalid (problems : List String)
deriving DecidableEq

namespace SettingsFailure

/-- The words for a failure. -/
def message : SettingsFailure → String
  | absent path => "Configuration file not found: " ++ path
  | unreadable cause => "Failed to parse configuration: " ++ cause.message
  | @unfit words _ => "Failed to parse configuration: TOML error: " ++ words
  | invalid problems => "Configuration validation failed: " ++ "; ".intercalate problems

end SettingsFailure

/-- The warnings of settings that will do. -/
def Settings.accept (s : Settings) : Except SettingsFailure (List String) :=
  match s.check with
  | .ok warnings => .ok (warnings.map Settings.Problem.message)
  | .error problems => .error (.invalid (problems.map Settings.Problem.message))

end RealmRegistry
