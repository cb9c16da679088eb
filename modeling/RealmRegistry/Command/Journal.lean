/-
What commands write to the log.

* `Journal.shows` — whether an entry is shown to whoever started the command;
* the entries, each named for what it tells.
-/
import RealmRegistry.Command.Failure
import RealmRegistry.Log.Filter
import RealmRegistry.Settings.Basic
import RealmRegistry.Registry.Replacement

namespace RealmRegistry.Command

open Log Store Text

/-- How a command keeps its log. -/
structure Journal where
  filter : Filter
  /-- whether the log is shown, and not written to a file -/
  shown : Bool

namespace Journal

/-- The log of a command that has none. -/
def silent : Journal := ⟨.upTo .error, false⟩

/-- Whether an entry is shown. -/
def shows (j : Journal) (e : Log.Entry) : Bool := j.shown && j.filter.admits e

/-! ### Entries of the program -/

/-- The source of the program's own entries. -/
def program : String := "realmstore"

/-- Settings will do. -/
def accepted (path : String) (s : Settings) : Log.Entry :=
  ⟨.info, program, "✅ 配置验证通过: " ++ quoted path, [⟨"name", s.name⟩]⟩

/-- Settings will not do. -/
def rejected (e : Failure) : Log.Entry := ⟨.error, program, "❌ 配置验证失败: " ++ e.message, []⟩

/-- A command begins. -/
def started (path : String) (s : Settings) : Log.Entry :=
  ⟨.info, program, "realmstore starting",
    [⟨"name", s.name⟩, ⟨"env", s.environment⟩, ⟨"config", path⟩]⟩

/-- A command fails. -/
def failed (e : Failure) : Log.Entry := ⟨.warn, program, "Command failed", [⟨"error", e.message⟩]⟩

/-- Context keys were replaced. -/
def replaced (customer : String) (count : Nat) : Log.Entry :=
  ⟨.info, program, "Context keys replaced", [⟨"realm", customer⟩, ⟨"count", toString count⟩]⟩

/-! ### Entries of the store -/

/-- The source of the store's entries. -/
def store : String := "realm_configuration"

/-- The store is open. -/
def opened (path : String) (connections : Nat) : Log.Entry :=
  ⟨.info, store, "SQLite configuration store initialized, WAL mode enabled",
    [⟨"path", path⟩, ⟨"max_connections", toString connections⟩]⟩

/-- Something fails for a realm. -/
def realmFailed (words realm : String) (e : Fault) : Log.Entry :=
  ⟨.warn, store, words, [⟨"realm", realm⟩, ⟨"error", e.message⟩]⟩

/-- Whether a fault comes from asking the database, and not from what it answers. -/
def isOfDatabase : Fault → Bool
  | .database _ => true
  | .row (.driver _) => true
  | _ => false

/-- A realm's configuration cannot be read.  It is called `what`, and its columns `columns`. -/
def configurationFailed (what columns realm : String) (e : Fault) : Log.Entry :=
  match e with
  | .notFound _ => ⟨.warn, store, what ++ " not found in DB", [⟨"realm", realm⟩]⟩
  | .malformed _ => realmFailed "Stored configuration is not valid JSON" realm e
  | e =>
    if isOfDatabase e then realmFailed ("Can't query " ++ what) realm e
    else realmFailed ("Can't read " ++ columns ++ ". Scan failed") realm e

/-- What cannot be done with rows: asking for them, or reading them. -/
def rowsFailed (e : Fault) : String :=
  if isOfDatabase e then "Failed to iterate on every items" else "Scan failed"

/-- Context keys cannot be read. -/
def contextKeysFailed (customer : String) (e : Fault) : Log.Entry :=
  realmFailed ("Can't get context key configuration. " ++ rowsFailed e) customer e

/-- Authorizations cannot be read. -/
def authorizationsFailed (e : Fault) : Log.Entry :=
  ⟨.warn, store, "Can't get authorizations. " ++ rowsFailed e, [⟨"error", e.message⟩]⟩

/-- A step of replacing context keys fails. -/
def stepFailed (words customer : String) (e : Fault) : Log.Entry :=
  realmFailed ("Can't update context keys. " ++ words) customer e

/-- A change of context keys fails. -/
def changeFailed (customer : String) (e : Fault) (c : Change) : Log.Entry :=
  let (words, id) := match c with
    | .delete id => ("Failed to delete context key", id)
    | .upsert key => ("Failed to upsert context key", key.id)
  ⟨.warn, store, "Can't update context keys. " ++ words,
    [⟨"realm", customer⟩, ⟨"context_key", id⟩, ⟨"error", e.message⟩]⟩

/-- Context keys cannot be replaced. -/
def replacementFailed {σ τ : Type} [Backend σ τ] (r : Registry σ) (customer : String)
    (wanted : List ContextKey) (e : Fault) : List Log.Entry :=
  match r.contextKeys customer with
  | .error e =>
    [contextKeysFailed customer e, stepFailed "Failed to get existing context keys" customer e]
  | .ok existing =>
    match Backend.begin r.database with
    | (.error e, _) => [stepFailed "Failed to start transaction" customer e]
    | (.ok t, db) =>
      match refusedChange? db t (plan existing wanted) with
      | some c => [changeFailed customer e c]
      | none => [stepFailed "Commit failed" customer e]

end Journal

end RealmRegistry.Command
