/-
Commands: what the program can be asked to do.

* `Verb` — the names of the commands;
* `Command` — a command with what it is given;
* `Request` — a command and the file of settings that it goes by.
-/
import RealmRegistry.Access.Action

namespace RealmRegistry

open Access

/-! ### Verbs -/

/-- The name of a command. -/
inductive Verb where
  | test
  | getConfig
  | getAdminConfig
  | getConfigs
  | getContextKeys
  | setContextKeys
  | listAuthorizations
  | listActions
deriving DecidableEq

namespace Verb

/-- How a verb is written. -/
def name : Verb → String
  | test => "test"
  | getConfig => "get-config"
  | getAdminConfig => "get-admin-config"
  | getConfigs => "get-configs"
  | getContextKeys => "get-context-keys"
  | setContextKeys => "set-context-keys"
  | listAuthorizations => "list-authorizations"
  | listActions => "list-actions"

/-- All verbs, in the order of the help text. -/
def all : List Verb :=
  [test, getConfig, getAdminConfig, getConfigs, getContextKeys, setContextKeys,
    listAuthorizations, listActions]

/-- The verb of a name. -/
def ofName? (text : String) : Option Verb :=
  all.find? fun v => v.name == text

/-- What a verb does. -/
def purpose : Verb → String
  | test => "Test configuration file"
  | getConfig => "Print the configuration of a realm"
  | getAdminConfig => "Print the admin configuration of a realm"
  | getConfigs => "Print both configurations of a realm (requires both to be set)"
  | getContextKeys => "Print the context keys of a customer realm"
  | setContextKeys =>
    "Replace the context keys of a customer realm with the content of a JSON file"
  | listAuthorizations => "Print the authorizations visible in the configured scope"
  | listActions => "Print the permission catalog"

end Verb

/-! ### Commands -/

/-- What the program is asked to do. -/
inductive Command where
  /-- check a file of settings, or the one that the request goes by -/
  | test (path : Option String)
  | getConfig (realm : String)
  | getAdminConfig (realm : String)
  | getConfigs (realm : String)
  | getContextKeys (customer : String)
  /-- replace the context keys of a customer realm by those of a file -/
  | setContextKeys (customer path : String)
  | listAuthorizations (service : Option Service) (apis : List Api)
  | listActions (service : Option Service)
deriving DecidableEq

namespace Command

/-- The name of a command. -/
def verb : Command → Verb
  | test _ => .test
  | getConfig _ => .getConfig
  | getAdminConfig _ => .getAdminConfig
  | getConfigs _ => .getConfigs
  | getContextKeys _ => .getContextKeys
  | setContextKeys _ _ => .setContextKeys
  | listAuthorizations _ _ => .listAuthorizations
  | listActions _ => .listActions

/-- Whether a command needs the store. -/
def needsStore : Command → Bool
  | test _ => false
  | listActions _ => false
  | _ => true

end Command

/-- A command and the file of settings that it goes by. -/
structure Request where
  command : Command
  settingsPath : String
deriving DecidableEq

/-- The file of settings of a request that names none. -/
def Request.usualPath : String := "config.toml"

end RealmRegistry
