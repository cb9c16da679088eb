/-
Tables of a relational database: three tables with mandatory columns and keys.

Rows keep the order in which they were inserted, and a row that is put over another one keeps that
one's place.  A cell may hold bytes instead of text; reading such a cell is a fault of its row.

* `Tables.query` — the rows of a query;
* `Tables.insert`, `Tables.upsert`, `Tables.delete` — changes that keep what the tables demand;
* `Tables.keepsPins` — every context key is there that something refers to;
* `Edit` — what else can be done to tables.
-/
import RealmRegistry.Store.Row

namespace RealmRegistry.Store

/-! ### Cells and tables -/

/-- What is in a column of a row. -/
inductive Cell where
  | null
  | text (s : String)
  | bytes (b : List UInt8)
deriving DecidableEq

/-- The tables of a registry. -/
inductive TableName where
  | realms
  | contextKeys
  | authorizations
deriving DecidableEq

/-- A column of a table. -/
structure Column where
  name : String
  /-- it may not be NULL -/
  mandatory : Bool
  /-- no two rows have the same value in it -/
  unique : Bool
deriving DecidableEq

namespace TableName

/-- The name of a table. -/
def name : TableName → String
  | realms => "realm_configuration"
  | contextKeys => "context_key_configuration"
  | authorizations => "authorizations"

/-- The table of a name. -/
def ofName? (text : String) : Option TableName :=
  [realms, contextKeys, authorizations].find? fun t => t.name == text

/-- The columns of a table. -/
def columns : TableName → List Column
  | realms =>
    [⟨"realm_id", true, true⟩, ⟨"configuration", false, false⟩,
      ⟨"admin_configuration", false, false⟩]
  | contextKeys =>
    [⟨"id", true, true⟩, ⟨"label", true, false⟩, ⟨"identities_realm", true, false⟩,
      ⟨"customer_realm", true, false⟩, ⟨"configuration", true, false⟩]
  | authorizations =>
    [⟨"realm_id", true, false⟩, ⟨"group_name", true, false⟩, ⟨"action", true, false⟩,
      ⟨"target_realm_id", false, false⟩, ⟨"target_group_name", false, false⟩]

end TableName

/-- The cells of a row, one for each column of its table. -/
abbrev Record : Type := List Cell

/-- The cell of a column. -/
def Record.cell (r : Record) (index : Nat) : Cell := (r[index]?).getD .null

/-- Tables, some of which may be missing, and what else they demand. -/
structure Tables where
  rows : TableName → Option (List Record)
  /-- the context key that may not be deleted -/
  locked : Option String
  /-- the context key that may not be put in -/
  refused : Option String
  /-- context keys that something refers to -/
  pinned : List String

namespace Tables

/-- Tables without rows. -/
def empty : Tables := ⟨fun _ => some [], none, none, []⟩

/-- Sets the rows of a table. -/
def setRows (t : Tables) (name : TableName) (rows : List Record) : Tables :=
  { t with rows := fun n => if n = name then some rows else t.rows n }

/-- Adds the tables that are missing. -/
def complete (t : Tables) : Tables :=
  { t with rows := fun n => some ((t.rows n).getD []) }

/-- A report of the database itself. -/
def engineFault {α : Type} (code : Nat) (text : String) : Except DriverFault α :=
  .error (.engine code text)

/-- The rows of a table, which has to be there. -/
def rowsOf (t : Tables) (name : TableName) : Except DriverFault (List Record) :=
  match t.rows name with
  | some rows => .ok rows
  | none => engineFault 1 ("no such table: " ++ name.name)

/-! ### What tables demand -/

/-- Whether a context key may be put in. -/
def checkRefused (t : Tables) (name : TableName) (r : Record) : Except DriverFault Unit :=
  match name, r.cell 0 with
  | .contextKeys, .text id =>
    if t.refused = some id then engineFault 1811 ("context key " ++ id ++ " is refused")
    else .ok ()
  | _, _ => .ok ()

/-- The first mandatory column that is NULL. -/
def missing? (columns : List Column) (r : Record) : Option Column :=
  match columns, r with
  | [], _ => none
  | c :: columns, [] => if c.mandatory then some c else missing? columns []
  | c :: columns, v :: r => if c.mandatory ∧ v = .null then some c else missing? columns r

/-- Checks the mandatory columns. -/
def checkMandatory (name : TableName) (r : Record) : Except DriverFault Unit :=
  match missing? name.columns r with
  | some c => engineFault 1299 ("NOT NULL constraint failed: " ++ name.name ++ "." ++ c.name)
  | none => .ok ()

/-- Whether a table has a key of its own, in its first column. -/
def keyColumn? (name : TableName) : Option Column :=
  name.columns.head?.filter Column.unique

/-- Whether two rows have the same key. -/
def sameKey (r s : Record) : Bool := decide (r.cell 0 = s.cell 0)

/-! ### Changes -/

/-- A row with a cell for each column. -/
def fitted (name : TableName) (r : Record) : Record :=
  (List.range name.columns.length).map r.cell

/-- Checks what does not depend on other rows. -/
def checkRecord (t : Tables) (name : TableName) (r : Record) : Except DriverFault Unit := do
  t.checkRefused name r
  checkMandatory name r

/-- Inserts a row. -/
def insert (t : Tables) (name : TableName) (r : Record) : Except DriverFault Tables := do
  let r := fitted name r
  let rows ← t.rowsOf name
  t.checkRecord name r
  match keyColumn? name with
  | some c =>
    if rows.any (sameKey r) then
      engineFault 1555 ("UNIQUE constraint failed: " ++ name.name ++ "." ++ c.name)
    else return t.setRows name (rows ++ [r])
  | none => return t.setRows name (rows ++ [r])

/-- Puts a row over the one with its key, or at the end. -/
def putRecord (r : Record) : List Record → List Record
  | [] => [r]
  | s :: rest => if sameKey r s then r :: rest else s :: putRecord r rest

/-- Puts in a context key, over the one with its identifier. -/
def upsert (t : Tables) (r : Record) : Except DriverFault Tables := do
  let r := fitted .contextKeys r
  let rows ← t.rowsOf .contextKeys
  t.checkRecord .contextKeys r
  return t.setRows .contextKeys (putRecord r rows)

/-- Deletes the context key of an identifier and gives the number of rows deleted. -/
def delete (t : Tables) (id : Cell) : Except DriverFault (Nat × Tables) := do
  let rows ← t.rowsOf .contextKeys
  let kept := rows.filter fun r => !(r.cell 0 = id && id != .null)
  match id with
  | .text s =>
    if kept.length < rows.length ∧ t.locked = some s then
      engineFault 1811 ("context key " ++ s ++ " is locked")
    else return (rows.length - kept.length, t.setRows .contextKeys kept)
  | _ => return (rows.length - kept.length, t.setRows .contextKeys kept)

/-- Whether there is a context key of an identifier. -/
def hasContextKey (t : Tables) (id : String) : Bool :=
  ((t.rows .contextKeys).getD []).any fun r => r.cell 0 = .text id

/-- Whether all context keys are there that something refers to. -/
def keepsPins (t : Tables) : Bool := t.pinned.all t.hasContextKey

/-- What a broken reference is reported as. -/
def brokenReference : DriverFault := .engine 787 "FOREIGN KEY constraint failed"

/-- What a demand on the table of context keys needs: the table has to be there. -/
def expectContextKeys (t : Tables) : Except DriverFault Unit :=
  match t.rows .contextKeys with
  | some _ => .ok ()
  | none => engineFault 1 ("no such table: main." ++ TableName.contextKeys.name)

/-- Refers to a context key from now on. -/
def pin (t : Tables) (id : String) : Except DriverFault Tables := do
  t.expectContextKeys
  if t.hasContextKey id then return { t with pinned := t.pinned ++ [id] }
  else .error brokenReference

/-- What is reported of a second guard against the same kind of change. -/
def guardedAlready {α : Type} (kind : String) : Except DriverFault α :=
  engineFault 1 ("trigger " ++ kind ++ "_guard already exists")

/-- Lets deleting a context key fail from now on; that can be asked for one key only. -/
def lockDelete (t : Tables) (id : String) : Except DriverFault Tables := do
  t.expectContextKeys
  if t.locked.isSome then guardedAlready "DELETE" else return { t with locked := some id }

/-- Lets putting in a context key fail from now on; that can be asked for one key only. -/
def lockInsert (t : Tables) (id : String) : Except DriverFault Tables := do
  t.expectContextKeys
  if t.refused.isSome then guardedAlready "INSERT" else return { t with refused := some id }

/-- Removes a table and what was demanded of it, unless something refers to its rows. -/
def drop (t : Tables) (name : TableName) : Except DriverFault Tables := do
  let _ ← t.rowsOf name
  let rest := { t with rows := fun n => if n = name then none else t.rows n }
  if name ≠ .contextKeys then return rest
  else if t.pinned.isEmpty then return { rest with locked := none, refused := none }
  else .error brokenReference

/-! ### Queries -/

/-- The value of a parameter; one that is not given is NULL. -/
def param (params : List String) (index : Nat) : Cell :=
  match params[index]? with
  | some s => .text s
  | none => .null

/-- Whether a row has a value in a column; NULL is equal to nothing. -/
def matchesCell (r : Record) (index : Nat) (v : Cell) : Bool :=
  v != .null && r.cell index == v

/-- Which rows of which table a query gives, and which columns of them. -/
structure Selection where
  table : TableName
  condition : Record → Bool
  columns : List Nat

/-- The selection of a statement, unless it is no query. -/
def selection? (statement : Statement) (params : List String) : Option Selection :=
  let v := param params 0
  let present (r : Record) (index : Nat) : Bool := r.cell index != .null
  match statement with
  | .selectBothConfigs =>
    some ⟨.realms, fun r => matchesCell r 0 v && present r 1 && present r 2, [1, 2]⟩
  | .selectConfig => some ⟨.realms, fun r => matchesCell r 0 v && present r 1, [1]⟩
  | .selectAdminConfig => some ⟨.realms, fun r => matchesCell r 0 v && present r 2, [2]⟩
  | .selectContextKeys =>
    some ⟨.contextKeys, fun r => matchesCell r 3 v, [0, 1, 2, 3, 4]⟩
  | .selectAllAuthorizations => some ⟨.authorizations, fun _ => true, [0, 1, 2, 3, 4]⟩
  | .deleteContextKey => none
  | .upsertContextKey => none

/-- What is reported of a cell that holds no text. -/
def notText (index : Nat) : DriverFault :=
  .columnUnreadable (toString index)
    ("mismatched types; Rust type `core::option::Option<alloc::string::String>` " ++
      "(as SQL type `TEXT`) is not compatible with SQL type `BLOB`")

/-- Reads the cells of a row from the `index`-th. -/
def readCells (index : Nat) : List Cell → Except DriverFault (List (Option String))
  | [] => .ok []
  | .null :: r => (readCells (index + 1) r).map (none :: ·)
  | .text s :: r => (readCells (index + 1) r).map (some s :: ·)
  | .bytes _ :: _ => .error (notText index)

/-- The row that a query gives for a record. -/
def Selection.row (s : Selection) (r : Record) : Except Fault Row :=
  match readCells 0 (s.columns.map r.cell) with
  | .ok columns => .ok ⟨columns⟩
  | .error e => .error (.ofDriver e)

/-- Carries out a query; what is no query has no rows. -/
def query (t : Tables) (statement : Statement) (params : List String) : List (Except Fault Row) :=
  match selection? statement params with
  | none => []
  | some s =>
    match t.rowsOf s.table with
    | .error e => [.error (.ofDriver e)]
    | .ok rows => (rows.filter s.condition).map s.row

/-- Carries out a statement that changes rows and gives their number; others change nothing. -/
def change (t : Tables) (statement : Statement) (params : List String) :
    Except DriverFault (Nat × Tables) :=
  match statement with
  | .deleteContextKey => t.delete (param params 0)
  | .upsertContextKey => (t.upsert (params.map .text)).map fun t => (1, t)
  | _ => .ok (0, t)

end Tables

/-- The table that a statement is about. -/
def Statement.table : Statement → TableName
  | selectBothConfigs => .realms
  | selectConfig => .realms
  | selectAdminConfig => .realms
  | selectContextKeys => .contextKeys
  | deleteContextKey => .contextKeys
  | upsertContextKey => .contextKeys
  | selectAllAuthorizations => .authorizations

/-- Whether a statement only reads. -/
def Statement.isQuery : Statement → Bool
  | deleteContextKey => false
  | upsertContextKey => false
  | _ => true

/-! ### Edits -/

/-- What can be done to tables beside the statements of a registry. -/
inductive Edit where
  | insert (table : TableName) (row : Record)
  | lockDelete (id : String)
  | lockInsert (id : String)
  | pin (id : String)
  | drop (table : TableName)

namespace Edit

/-- Carries out an edit and gives the number of rows that it adds, if that is what it does. -/
def carryOut (t : Tables) : Edit → Except DriverFault (Option Nat × Tables)
  | insert table row => (t.insert table row).map fun t => (some 1, t)
  | lockDelete id => (t.lockDelete id).map fun t => (none, t)
  | lockInsert id => (t.lockInsert id).map fun t => (none, t)
  | pin id => (t.pin id).map fun t => (some 1, t)
  | drop table => (t.drop table).map fun t => (none, t)

end Edit

end RealmRegistry.Store

