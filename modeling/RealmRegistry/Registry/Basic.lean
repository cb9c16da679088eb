/-
A registry: realm configurations, context keys and authorizations in a database.

Whatever is read is read as a whole or not at all.  The first fault is the answer: that of the
query, else that of the first row that does not fit, else that of the first stored text that is
malformed.

* `Registry.configurations` — both configurations of a realm;
* `Registry.contextKeys` — the context keys of a customer realm;
* `Registry.authorizations` — the authorizations that the registry's scope lets through.
-/
import RealmRegistry.Access.Scope
import RealmRegistry.Realm.Administration
import RealmRegistry.Realm.Authorization
import RealmRegistry.Realm.Configuration
import RealmRegistry.Realm.ContextKey
import RealmRegistry.Store.Backend

namespace RealmRegistry

open Access Schema Store

/-! ### Rows as records -/

/-- A fault of a row as a fault of a request. -/
def ofRow {α : Type} (r : Except RowFault α) : Except Fault α := r.mapError .row

/-- A complaint about a stored text as a fault of a request. -/
def ofText {α : Type} (r : Except Complaint α) : Except Fault α := r.mapError .malformed

/-- The context key of a row. -/
def ContextKey.ofRow (r : Row) : Except Fault ContextKey := do
  RealmRegistry.ofRow (r.expectColumns 5)
  let id ← RealmRegistry.ofRow (r.required 0 "id")
  let label ← RealmRegistry.ofRow (r.required 1 "label")
  let identitiesRealm ← RealmRegistry.ofRow (r.required 2 "identities_realm")
  let customerRealm ← RealmRegistry.ofRow (r.required 3 "customer_realm")
  let stored ← RealmRegistry.ofRow (r.required 4 "configuration")
  let config ← ofText (decode ContextKeyConfiguration stored)
  return ⟨id, label, identitiesRealm, customerRealm, config⟩

/-- The columns of a context key. -/
def ContextKey.columns (k : ContextKey) : List String :=
  [k.id, k.label, k.identitiesRealm, k.customerRealm, encode k.config]

/-- The authorization of a row. -/
def Authorization.ofRow (r : Row) : Except RowFault Authorization := do
  r.expectColumns 5
  let realmId ← r.required 0 "realm_id"
  let groupName ← r.required 1 "group_name"
  let action ← r.required 2 "action"
  let targetRealmId ← r.optional 3 "target_realm_id"
  let targetGroupName ← r.optional 4 "target_group_name"
  return ⟨realmId, groupName, action, targetRealmId, targetGroupName⟩

/-- Reads all rows as they come. -/
def readRows {α : Type} (read : Row → Except Fault α) : List (Except Fault Row) →
    Except Fault (List α)
  | [] => .ok []
  | .error e :: _ => .error e
  | .ok r :: rest =>
    match read r with
    | .error e => .error e
    | .ok a => (readRows read rest).map (a :: ·)

/-- Reads all rows as they come, and leaves out what is not to be seen of them. -/
def readKept {α : Type} (read : Row → Except Fault α) (keep : α → Bool) :
    List (Except Fault Row) → Except Fault (List α)
  | [] => .ok []
  | .error e :: _ => .error e
  | .ok r :: rest =>
    match read r with
    | .error e => .error e
    | .ok a => (readKept read keep rest).map fun l => if keep a then a :: l else l

/-! ### Registries -/

/-- A database, and which authorizations are seen. -/
structure Registry (σ : Type) where
  database : σ
  scope : Scope

namespace Registry

variable {σ τ : Type} [Backend σ τ]

/-- A registry that holds nothing back. -/
def ofDatabase (database : σ) : Registry σ := ⟨database, .unrestricted⟩

/-- Merges a set of actions into the scope. -/
def restrict (r : Registry σ) (actions : List String) : Registry σ :=
  { r with scope := r.scope.restrict actions }

/-- The row of a realm. -/
def realmRow (r : Registry σ) (statement : Statement) (realm : String) : Except Fault Row :=
  match Backend.queryRow r.database statement [realm] with
  | .error e => .error e
  | .ok none => .error (.notFound realm)
  | .ok (some row) => .ok row

/-- The one column of a realm's row. -/
def realmColumn (r : Registry σ) (statement : Statement) (column realm : String) :
    Except Fault String := do
  let row ← r.realmRow statement realm
  ofRow (row.expectColumns 1)
  ofRow (row.required 0 column)

/-- The configuration of a realm. -/
def configuration (r : Registry σ) (realm : String) : Except Fault RealmConfiguration := do
  let stored ← r.realmColumn .selectConfig "configuration" realm
  ofText (RealmConfiguration.ofStored stored)

/-- The administrative configuration of a realm. -/
def adminConfiguration (r : Registry σ) (realm : String) : Except Fault AdminConfiguration := do
  let stored ← r.realmColumn .selectAdminConfig "admin_configuration" realm
  ofText (decode AdminConfiguration stored)

/-- Both configurations of a realm. -/
def configurations (r : Registry σ) (realm : String) :
    Except Fault (RealmConfiguration × AdminConfiguration) := do
  let row ← r.realmRow .selectBothConfigs realm
  ofRow (row.expectColumns 2)
  let stored ← ofRow (row.required 0 "configuration")
  let adminStored ← ofRow (row.required 1 "admin_configuration")
  let configuration ← ofText (RealmConfiguration.ofStored stored)
  let admin ← ofText (decode AdminConfiguration adminStored)
  return (configuration, admin)

/-- The context keys of a customer realm. -/
def contextKeys (r : Registry σ) (customer : String) : Except Fault (List ContextKey) :=
  readRows ContextKey.ofRow (Backend.query r.database .selectContextKeys [customer])

/-- The authorizations whose actions are in scope; each row is read before its action is looked
at. -/
def authorizations (r : Registry σ) : Except Fault (List Authorization) :=
  readKept (fun row => ofRow (Authorization.ofRow row)) (fun a => r.scope.allows a.action)
    (Backend.query r.database .selectAllAuthorizations [])

end Registry

end RealmRegistry
