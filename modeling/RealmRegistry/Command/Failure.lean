/-
Why a command fails.

* `InstanceFailure` — what goes wrong while an instance is set up or asked: its store, its
  settings, its files, its documents;
* `Command.Failure` — that, and what a command itself finds wrong.
-/
import RealmRegistry.Settings.Failure
import RealmRegistry.Store.Fault

namespace RealmRegistry

open Schema Store Text

/-- What goes wrong with an instance. -/
inductive InstanceFailure where
  | store (cause : Fault)
  | settings (cause : SettingsFailure)
  | file (cause : FileFault)
  /-- a text is not the JSON that it should be -/
  | document (cause : Complaint)
deriving DecidableEq

namespace InstanceFailure

/-- The words for what goes wrong with an instance. -/
def message : InstanceFailure → String
  | store cause => "Configuration store error: " ++ cause.message
  | settings cause => "Configuration error: " ++ cause.message
  | file cause => "IO error: " ++ cause.message
  | document cause => "Serialization error: JSON error: " ++ cause.message

/-- Whether all that is wrong is that there is no configuration. -/
def isNotFound : InstanceFailure → Bool
  | store cause => cause.isNotFound
  | _ => false

end InstanceFailure

namespace Command

/-- Why a command fails. -/
inductive Failure where
  | settings (cause : SettingsFailure)
  | underlying (cause : InstanceFailure)
  /-- the directory of log files cannot be made, or the log file in it -/
  | logs (cause : FileFault)
  | keysUnreadable (path : String) (cause : FileFault)
  | keysUnfit (path : String) (cause : Complaint)
  /-- the settings file that was asked for is not there -/
  | noSuchSettings (path : String)
  /-- there is no settings file in any of the usual places -/
  | noSettings
  /-- the command is not one for a store -/
  | needsNoStore
  /-- in somebody else's words -/
  | reported (text : String)
deriving DecidableEq

namespace Failure

/-- The words for a failure that has no cause outside the command. -/
def ownMessage (text : String) : String := "Application error: " ++ text

/-- The words for a failure. -/
def message : Failure → String
  | settings cause => "Configuration error: " ++ cause.message
  | underlying cause => cause.message
  | logs cause => "I/O error: " ++ cause.message
  | keysUnreadable path cause =>
    "Failed to read context keys file " ++ path ++ ": " ++ cause.message
  | keysUnfit path cause => "Invalid context keys file " ++ path ++ ": " ++ cause.message
  | noSuchSettings path => ownMessage ("Config file not found: " ++ quoted path)
  | noSettings =>
    ownMessage "No configuration file found. Please create one or specify path with --config"
  | needsNoStore => ownMessage "command is handled before the store is opened"
  | reported text => ownMessage text

end Failure

end Command

end RealmRegistry
