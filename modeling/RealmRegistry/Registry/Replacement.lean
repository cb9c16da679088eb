/-
Replacing the context keys of a customer realm.

The keys that are stored are read first.  Then, in one transaction, those that are not wanted any
more are deleted and all wanted ones are put in, each over the one with its identifier.  Either
all of it happens or nothing.

* `plan` — what has to be done;
* `Registry.replaceContextKeys` — does it;
* `Call.step` — the same one step at a time, for calls that are given up or that overlap.
-/
import RealmRegistry.Registry.Basic

namespace RealmRegistry

open Access Schema Store

/-! ### Plans -/

/-- One thing that has to be done to stored context keys. -/
inductive Change where
  | delete (id : String)
  | upsert (key : ContextKey)
deriving DecidableEq

namespace Change

/-- The statement for a change. -/
def statement : Change → Statement
  | delete _ => .deleteContextKey
  | upsert _ => .upsertContextKey

/-- The parameters of a change. -/
def params : Change → List String
  | delete id => [id]
  | upsert key => key.columns

end Change

/-- The texts of a list without those in `seen`, each once. -/
def distinctFrom (seen : List String) : List String → List String
  | [] => []
  | id :: r => if seen.contains id then distinctFrom seen r else id :: distinctFrom (id :: seen) r

/-- The stored identifiers that are not wanted any more, each once, in the order of reading. -/
def staleIds (existing wanted : List ContextKey) : List String :=
  distinctFrom (wanted.map ContextKey.id) (existing.map ContextKey.id)

/-- What has to be done to have the wanted keys instead of the existing ones. -/
def plan (existing wanted : List ContextKey) : List Change :=
  (staleIds existing wanted).map .delete ++ wanted.map .upsert

/-! ### Replacement -/

variable {σ τ : Type} [Backend σ τ]

/-- Carries out changes in a transaction up to the first that fails. -/
def applyChanges (db : σ) (t : τ) : List Change → Except Fault Unit × τ × σ
  | [] => (.ok (), t, db)
  | c :: r =>
    match Backend.execute db t c.statement c.params with
    | (.error e, t', db') => (.error e, t', db')
    | (.ok _, t', db') => applyChanges db' t' r

/-- The first of some changes that fails in a transaction. -/
def refusedChange? (db : σ) (t : τ) : List Change → Option Change
  | [] => none
  | c :: r =>
    match Backend.execute db t c.statement c.params with
    | (.error _, _, _) => some c
    | (.ok _, t', db') => refusedChange? db' t' r

/-- Carries out changes in a transaction of their own. -/
def transact (db : σ) (changes : List Change) : Except Fault Unit × σ :=
  match Backend.begin db with
  | (.error e, db) => (.error e, db)
  | (.ok t, db) =>
    match applyChanges db t changes with
    | (.error e, t, db) => (.error e, Backend.release db t)
    | (.ok _, t, db) =>
      match Backend.commit db t with
      | (outcome, t, db) => (outcome, Backend.release db t)

/-- Replaces the context keys of a customer realm. -/
def Registry.replaceContextKeys (r : Registry σ) (customer : String) (wanted : List ContextKey) :
    Except Fault Unit × Registry σ :=
  match r.contextKeys customer with
  | .error e => (.error e, r)
  | .ok existing =>
    match transact r.database (plan existing wanted) with
    | (outcome, db) => (outcome, { r with database := db })

/-! ### Step by step -/

/-- How far a replacement has come. -/
inductive Call (τ : Type) where
  | reading (customer : String) (wanted : List ContextKey)
  | opening (changes : List Change)
  | changing (transaction : τ) (changes : List Change)
  | finished (outcome : Except Fault Unit)

namespace Call

/-- The next step of a replacement. -/
def step (db : σ) : Call τ → Call τ × σ
  | reading customer wanted =>
    match (Registry.ofDatabase db).contextKeys customer with
    | .error e => (finished (.error e), db)
    | .ok existing => (opening (plan existing wanted), db)
  | opening changes =>
    match Backend.begin db with
    | (.error e, db) => (finished (.error e), db)
    | (.ok t, db) => (changing t changes, db)
  | changing t [] =>
    match Backend.commit db t with
    | (outcome, t, db) => (finished outcome, Backend.release db t)
  | changing t (c :: r) =>
    match Backend.execute db t c.statement c.params with
    | (.error e, t, db) => (finished (.error e), Backend.release db t)
    | (.ok _, t, db) => (changing t r, db)
  | finished outcome => (finished outcome, db)

/-- Gives a replacement up. -/
def abandon (db : σ) : Call τ → σ
  | changing t _ => Backend.release db t
  | _ => db

end Call

end RealmRegistry
