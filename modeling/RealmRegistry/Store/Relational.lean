/-
A relational database: tables, transactions that see them as they were, and connections.

Reading shows what is committed.  A transaction sees the tables as they were at its first
statement, and what it did to them.  One transaction at a time may write, and only one that sees
the latest tables; a refusal leaves it as it was.  What is asked needs a connection, of which there
are only so many; each remembers how many rows its last change changed, and a query that is carried
out in a transaction reports that number.

* `Relational.claim` — whether a transaction may write;
* `Relational.execute`, `Relational.commit` — the steps of a transaction;
* `Relational.edit`, `Relational.perform` — changes outside all transactions;
* `Relational.connect` — opens a database.
-/
import RealmRegistry.Store.Backend
import RealmRegistry.Store.Tables

namespace RealmRegistry.Store

/-- An open database with its committed tables. -/
structure Relational where
  tables : Tables
  /-- how many commits there were that changed something -/
  version : Nat
  /-- whether a transaction writes -/
  writing : Bool
  /-- the connections that are not in use, each with the count of its last change -/
  idle : List Nat
  /-- how many connections may still be opened -/
  free : Nat
  closed : Bool

namespace Relational

/-! ### Opening and closing -/

/-- How many connections are opened at once. -/
def initialConnections : Nat := 2

/-- Opens a database with at most so many connections, adding tables that are missing. -/
def opened (connections : Nat) (t : Tables) : Relational :=
  let idle := min connections initialConnections
  ⟨t.complete, 0, false, .replicate idle 0, connections - idle, false⟩

/-- The longest time that can be waited for another's changes, in milliseconds. -/
def longestWait : Nat := 0x7fffffff

/-- Opens a database with at most so many connections that wait so many seconds for each other. -/
def connect (connections wait : Nat) (t : Tables) : Except DatabaseFault Relational :=
  if connections = 0 then .error (.noConnection .poolTimedOut)
  else if longestWait < wait * 1000 then .error (.noConnection .workerCrashed)
  else .ok (opened connections t)

/-- Closes the database; nothing works from then on. -/
def close (d : Relational) : Relational := { d with closed := true }

/-! ### Connections -/

/-- Takes a connection, the one that was given back first or a new one. -/
def take (d : Relational) : Except DriverFault (Nat × Relational) :=
  if d.closed then .error .poolClosed
  else
    match d.idle with
    | count :: idle => .ok (count, { d with idle := idle })
    | [] =>
      if d.free = 0 then .error .poolTimedOut else .ok (0, { d with free := d.free - 1 })

/-- Gives a connection back. -/
def giveBack (d : Relational) (count : Nat) : Relational := { d with idle := d.idle ++ [count] }

/-! ### Queries -/

/-- The rows of a query as they come. -/
def query (d : Relational) (statement : Statement) (params : List String) :
    List (Except Fault Row) :=
  match d.take with
  | .error e => [.error (.ofDriver e)]
  | .ok _ => d.tables.query statement params

/-- The first of some rows. -/
def firstRow : List (Except Fault Row) → Except Fault (Option Row)
  | [] => .ok none
  | .ok row :: _ => .ok (some row)
  | .error e :: _ => .error e

/-- The first row of a query. -/
def queryRow (d : Relational) (statement : Statement) (params : List String) :
    Except Fault (Option Row) :=
  firstRow (d.query statement params)

/-! ### Transactions -/

/-- What a transaction sees. -/
structure View where
  tables : Tables
  /-- the version of the database that it saw first -/
  version : Nat
  /-- whether it may write -/
  writing : Bool
  /-- whether it changed anything -/
  changed : Bool

/-- A transaction. -/
inductive Transaction where
  /-- it has a connection, and sees something from its first statement on -/
  | active (count : Nat) (view : Option View)
  | finished

/-- What a transaction sees that begins now. -/
def view (d : Relational) : View := ⟨d.tables, d.version, false, false⟩

/-- What is reported to one who may not write. -/
def locked (code : Nat) : DriverFault := .engine code "database is locked"

/-- Lets a transaction write, unless another one does or what it sees is not the latest. -/
def claim (d : Relational) (v : View) : Except DriverFault (View × Relational) :=
  if v.writing then .ok (v, d)
  else if d.writing then .error (locked 5)
  else if v.version ≠ d.version then .error (locked 517)
  else .ok ({ v with writing := true }, { d with writing := true })

/-- Ends what a transaction sees; if it wrote, others may write from now on. -/
def unclaim (d : Relational) : Option View → Relational
  | some v => if v.writing then { d with writing := false } else d
  | none => d

/-- Makes tables those of the database. -/
def store (d : Relational) (t : Tables) : Relational :=
  { d with tables := t, version := d.version + 1 }

/-- Opens a transaction. -/
def begin (d : Relational) : Except Fault Transaction × Relational :=
  match d.take with
  | .error e => (.error (.database (.noBegin e)), d)
  | .ok (count, d) => (.ok (.active count none), d)

/-- Changes rows in a transaction.  A change that fails changes nothing. -/
def changeIn (d : Relational) (before : Option View) (v : View) (statement : Statement)
    (params : List String) : Except Fault Nat × Transaction × Relational :=
  match d.claim v with
  | .error e => (.error (.ofDriver e), .active 0 before, d)
  | .ok (v, d) =>
    match v.tables.change statement params with
    | .error e => (.error (.ofDriver e), .active 0 (some v), d)
    | .ok (count, tables) =>
      let changed := v.changed || count != 0
      (.ok count, .active count (some { v with tables := tables, changed := changed }), d)

/-- Carries out a statement in a transaction. -/
def execute (d : Relational) (t : Transaction) (statement : Statement) (params : List String) :
    Except Fault Nat × Transaction × Relational :=
  match t with
  | .finished => (.error (.database .alreadyCommitted), t, d)
  | .active count before =>
    let v := before.getD d.view
    match v.tables.rowsOf statement.table with
    | .error e => (.error (.ofDriver e), t, d)
    | .ok _ =>
      if statement.isQuery then (.ok count, .active count (some v), d)
      else d.changeIn before v statement params

/-- Ends a transaction and forgets what it did, unless it is committed. -/
def release (d : Relational) : Transaction → Relational
  | .active count v => (d.unclaim v).giveBack count
  | .finished => d

/-- Makes the tables of a transaction those of the database, unless a reference is broken. -/
def commit (d : Relational) (t : Transaction) : Except Fault Unit × Transaction × Relational :=
  match t with
  | .finished => (.error (.database .alreadyCommitted), t, d)
  | .active _ none => (.ok (), .finished, d.release t)
  | .active _ (some v) =>
    if !v.changed then (.ok (), .finished, d.release t)
    else if v.tables.keepsPins then (.ok (), .finished, (d.release t).store v.tables)
    else (.error (.database (.noCommit Tables.brokenReference)), .finished, d.release t)

instance instBackend : Backend Relational Transaction where
  queryRow := queryRow
  query := query
  begin := begin
  execute := execute
  commit := commit
  release := release

/-! ### Outside transactions -/

/-- What a change to the tables comes to that is committed at once: it is refused while a
transaction writes, or if it would break a reference. -/
def changed (d : Relational) (f : Tables → Except DriverFault (Option Nat × Tables)) :
    Except DriverFault (Option Nat × Tables) :=
  match f d.tables with
  | .error e => .error (if d.writing && !e.isAboutStatement then locked 5 else e)
  | .ok (count, next) =>
    if d.writing then .error (locked 5)
    else if next.keepsPins then .ok (count, next)
    else .error Tables.brokenReference

/-- Changes the tables.  A change of no rows leaves the version. -/
def change (d : Relational) (f : Tables → Except DriverFault (Option Nat × Tables)) :
    Except Fault Unit × Relational :=
  match d.take with
  | .error e => (.error (.ofDriver e), d)
  | .ok (count, rest) =>
    match d.changed f with
    | .error e => (.error (.ofDriver e), rest.giveBack (if e.isAboutStatement then count else 0))
    | .ok (some 0, _) => (.ok (), rest.giveBack 0)
    | .ok (n, next) => (.ok (), (rest.giveBack (n.getD count)).store next)

/-- Carries out an edit. -/
def edit (d : Relational) (e : Edit) : Except Fault Unit × Relational := d.change e.carryOut

/-- Carries out a statement.  A query gives its rows; a change gives none. -/
def perform (d : Relational) (statement : Statement) (params : List String) :
    List (Except Fault Row) × Relational :=
  if statement.isQuery then (d.query statement params, d)
  else
    match d.change fun t => (t.change statement params).map fun (n, t) => (some n, t) with
    | (.ok (), d) => ([], d)
    | (.error e, d) => ([.error e], d)

end Relational

end RealmRegistry.Store
