/-
A database in memory, for trying out.

A transaction works on a copy of the context keys, which takes their place when it is committed.
Statements that are carried out are noted, and any step can be made to fail.
-/
import RealmRegistry.Dict
import RealmRegistry.Store.Backend

namespace RealmRegistry.Store

/-- A database in memory. -/
structure Memory where
  /-- the configuration and the administrative configuration of a realm -/
  realms : Dict (Option String × Option String)
  contextKeys : List Row
  authorizations : List Row
  /-- which statements fail, and with what words -/
  failure : Statement → Option String
  /-- which queries fail after so many rows -/
  iterationFailure : Statement → Option (Nat × String)
  beginFailure : Option String
  commitFailure : Option String
  /-- what was carried out in transactions so far -/
  executed : List (Statement × List String)
  started : Nat
  commits : Nat
  rollbacks : Nat

namespace Memory

/-- A database without rows, in which nothing fails. -/
def empty : Memory :=
  ⟨Dict.empty, [], [], fun _ => none, fun _ => none, none, none, [], 0, 0, 0⟩

/-- A fault in given words. -/
def reported {α : Type} (text : String) : Except Fault α :=
  .error (.database (.reported text))

/-! ### Queries -/

/-- The rows of context keys of a customer realm. -/
def contextKeysOf (m : Memory) (customer : String) : List Row :=
  m.contextKeys.filter fun r => r.text? 3 == some customer

/-- The identifiers of the context keys of a customer realm. -/
def contextKeyIds (m : Memory) (customer : String) : List String :=
  (m.contextKeysOf customer).filterMap fun r => r.text? 0

/-- The row of a realm; which columns have to be there depends on the statement. -/
def realmRow (statement : Statement) (configuration admin : Option String) :
    Except Fault (Option Row) :=
  match statement, configuration, admin with
  | .selectBothConfigs, some c, some a => .ok (some (.ofTexts [c, a]))
  | .selectBothConfigs, _, _ => .ok none
  | .selectConfig, c, _ => .ok (c.map fun t => .ofTexts [t])
  | .selectAdminConfig, _, a => .ok (a.map fun t => .ofTexts [t])
  | other, _, _ => .error (.database (.notSingleRow other))

/-- The first row of a query. -/
def queryRow (m : Memory) (statement : Statement) (params : List String) :
    Except Fault (Option Row) :=
  match m.failure statement with
  | some text => reported text
  | none =>
    match m.realms.get? (params.headD "") with
    | none => .ok none
    | some (configuration, admin) => realmRow statement configuration admin

/-- The rows that a query may give. -/
def rowsFor (m : Memory) (statement : Statement) (params : List String) :
    Except Fault (List Row) :=
  match statement with
  | .selectContextKeys => .ok (m.contextKeysOf (params.headD ""))
  | .selectAllAuthorizations => .ok m.authorizations
  | other => .error (.database (.notManyRows other))

/-- The rows of a query as they come. -/
def query (m : Memory) (statement : Statement) (params : List String) :
    List (Except Fault Row) :=
  match m.failure statement with
  | some text => [reported text]
  | none =>
    match m.rowsFor statement params with
    | .error e => [.error e]
    | .ok rows =>
      match m.iterationFailure statement with
      | none => rows.map .ok
      | some (count, text) => (rows.take count).map .ok ++ [reported text]

/-! ### Transactions -/

/-- An open transaction. -/
structure Transaction where
  staged : List Row
  committed : Bool
deriving DecidableEq

/-- Whether a row has an identifier. -/
def hasId (id : String) (r : Row) : Bool := r.text? 0 == some id

/-- The rows without those of an identifier. -/
def deleteRows (id : String) (rows : List Row) : List Row :=
  rows.filter fun r => !hasId id r

/-- Puts a row over the first one of an identifier, or at the end. -/
def upsertRow (id : String) (row : Row) : List Row → List Row
  | [] => [row]
  | r :: rest => if hasId id r then row :: rest else r :: upsertRow id row rest

/-- Carries out a statement on rows of context keys. -/
def change (statement : Statement) (params : List String) (rows : List Row) :
    Except Fault (Nat × List Row) :=
  let id := params.headD ""
  match statement with
  | .deleteContextKey =>
    let kept := deleteRows id rows
    .ok (rows.length - kept.length, kept)
  | .upsertContextKey => .ok (1, upsertRow id (.ofTexts params) rows)
  | other => .error (.database (.notTransactional other))

/-- Opens a transaction. -/
def begin (m : Memory) : Except Fault Transaction × Memory :=
  match m.beginFailure with
  | some text => (reported text, m)
  | none => (.ok ⟨m.contextKeys, false⟩, { m with started := m.started + 1 })

/-- Carries out a statement in a transaction; it is noted even if it fails. -/
def execute (m : Memory) (t : Transaction) (statement : Statement) (params : List String) :
    Except Fault Nat × Transaction × Memory :=
  let noted := { m with executed := m.executed ++ [(statement, params)] }
  match m.failure statement with
  | some text => (reported text, t, noted)
  | none =>
    match change statement params t.staged with
    | .error e => (.error e, t, noted)
    | .ok (count, rows) => (.ok count, { t with staged := rows }, noted)

/-- Puts the copy of a transaction in the place of the rows; the transaction keeps nothing. -/
def commit (m : Memory) (t : Transaction) : Except Fault Unit × Transaction × Memory :=
  match m.commitFailure with
  | some text => (reported text, t, m)
  | none =>
    (.ok (), ⟨[], true⟩, { m with contextKeys := t.staged, commits := m.commits + 1 })

/-- Ends a transaction. -/
def release (m : Memory) (t : Transaction) : Memory :=
  if t.committed then m else { m with rollbacks := m.rollbacks + 1 }

instance instBackend : Backend Memory Transaction where
  queryRow := queryRow
  query := query
  begin := begin
  execute := execute
  commit := commit
  release := release

end Memory

end RealmRegistry.Store
