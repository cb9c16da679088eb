/-
What can go wrong between a registry and its database.

Four kinds are told apart: there is no row, a stored text is malformed, the database fails, or a
row does not have the columns that it should have.

* `DriverFault` — what the driver of a database reports; those about columns are faults of rows;
* `Fault.message` — the words for a fault.
-/
import RealmRegistry.Schema.Stored

namespace RealmRegistry.Store

open Schema

/-! ### Statements -/

/-- What a registry asks of its database. -/
inductive Statement where
  | selectBothConfigs
  | selectConfig
  | selectAdminConfig
  | selectContextKeys
  | deleteContextKey
  | upsertContextKey
  | selectAllAuthorizations
deriving DecidableEq

namespace Statement

/-- The name of a statement. -/
def name : Statement → String
  | selectBothConfigs => "select_both_configs"
  | selectConfig => "select_config"
  | selectAdminConfig => "select_admin_config"
  | selectContextKeys => "select_context_keys"
  | deleteContextKey => "delete_context_key"
  | upsertContextKey => "upsert_context_key"
  | selectAllAuthorizations => "select_all_authorizations"

/-- All statements, in their order. -/
def all : List Statement :=
  [selectBothConfigs, selectConfig, selectAdminConfig, selectContextKeys, deleteContextKey,
    upsertContextKey, selectAllAuthorizations]

/-- The statement of a name. -/
def ofName? (text : String) : Option Statement :=
  all.find? fun s => s.name == text

end Statement

/-! ### Faults -/

/-- What the driver of a database reports. -/
inductive DriverFault where
  | columnNotFound (name : String)
  | columnOutOfBounds (index size : Nat)
  | columnUnreadable (column text : String)
  | unreadable (text : String)
  | unwritable (text : String)
  | protocol (text : String)
  | rowNotFound
  | typeNotFound (name : String)
  | poolTimedOut
  | poolClosed
  | workerCrashed
  /-- the way to the database fails -/
  | unreachable (text : String)
  /-- an error of the database itself, with its number -/
  | engine (code : Nat) (text : String)
deriving DecidableEq

namespace DriverFault

/-- The words for what a driver reports. -/
def message : DriverFault → String
  | columnNotFound name => "no column found for name: " ++ name
  | columnOutOfBounds index size =>
    "column index out of bounds: the len is " ++ toString size ++ ", but the index is " ++
      toString index
  | columnUnreadable column text =>
    "error occurred while decoding column " ++ column ++ ": " ++ text
  | unreadable text => "error occurred while decoding: " ++ text
  | unwritable text => "error occurred while encoding a value: " ++ text
  | protocol text => "encountered unexpected or invalid data: " ++ text
  | rowNotFound => "no rows returned by a query that expected to return at least one row"
  | typeNotFound name => "type named " ++ name ++ " not found"
  | poolTimedOut => "pool timed out while waiting for an open connection"
  | poolClosed => "attempted to acquire a connection on a closed pool"
  | workerCrashed => "attempted to communicate with a crashed background worker"
  | unreachable text => "error communicating with database: " ++ text
  | engine code text =>
    "error returned from database: (code: " ++ toString code ++ ") " ++ text

/-- Whether a report is about a statement itself, which is read before anything is done. -/
def isAboutStatement : DriverFault → Bool
  | engine code _ => code == 1
  | _ => false

/-- Whether a report is about the columns of a row. -/
def isAboutColumns : DriverFault → Bool
  | columnNotFound _ => true
  | columnOutOfBounds _ _ => true
  | columnUnreadable _ _ => true
  | unreadable _ => true
  | _ => false

end DriverFault

/-- How a row fails to have the columns that it should have. -/
inductive RowFault where
  | wrongCount (expected actual : Nat)
  | outOfBounds (column : String) (index size : Nat)
  | null (column : String) (index : Nat)
  | driver (cause : DriverFault)
  /-- in somebody else's words -/
  | reported (text : String)
deriving DecidableEq

/-- The words for a fault of a row. -/
def RowFault.message : RowFault → String
  | wrongCount expected actual =>
    "expected " ++ toString expected ++ " columns, got " ++ toString actual
  | outOfBounds column index size =>
    "column " ++ column ++ " (index " ++ toString index ++ ") out of bounds, row has " ++
      toString size ++ " columns"
  | null column index => "column " ++ column ++ " (index " ++ toString index ++ ") is NULL"
  | driver cause => cause.message
  | reported text => text

/-- How a database fails. -/
inductive DatabaseFault where
  | notSingleRow (statement : Statement)
  | notManyRows (statement : Statement)
  | notTransactional (statement : Statement)
  | noTransactions
  | alreadyCommitted
  | noBegin (cause : DriverFault)
  | noCommit (cause : DriverFault)
  | noServerSupport
  /-- the address of the database leads nowhere -/
  | badAddress (text : String)
  /-- the database cannot be opened -/
  | noConnection (cause : DriverFault)
  | driver (cause : DriverFault)
  /-- in somebody else's words -/
  | reported (text : String)
deriving DecidableEq

/-- The words for a fault of a database. -/
def DatabaseFault.message : DatabaseFault → String
  | notSingleRow statement => statement.name ++ " is not a single row query"
  | notManyRows statement => statement.name ++ " is not a multi row query"
  | notTransactional statement => statement.name ++ " is not a transactional statement"
  | noTransactions => "no transactions"
  | alreadyCommitted => "Transaction already committed"
  | noBegin cause => "Failed to begin transaction: " ++ cause.message
  | noCommit cause => "Failed to commit transaction: " ++ cause.message
  | noServerSupport =>
    "PostgreSQL backend not enabled. Compile with --features backend-postgres"
  | badAddress text => "Failed to parse SQLite URL: error with configuration: " ++ text
  | noConnection cause => "Failed to connect to SQLite: " ++ cause.message
  | driver cause => cause.message
  | reported text => text

/-- What is reported of a file that cannot be opened. -/
def DatabaseFault.cannotOpen : DatabaseFault :=
  noConnection (.engine 14 "unable to open database file")

/-- What is reported of a file that is none of a database. -/
def DatabaseFault.noDatabase : DatabaseFault := noConnection (.engine 26 "file is not a database")

/-- What can go wrong with a request to a registry. -/
inductive Fault where
  | notFound (realm : String)
  | malformed (cause : Complaint)
  | database (cause : DatabaseFault)
  | row (cause : RowFault)
deriving DecidableEq

namespace Fault

/-- The fault that a driver's report stands for. -/
def ofDriver (cause : DriverFault) : Fault :=
  if cause.isAboutColumns then .row (.driver cause) else .database (.driver cause)

/-- The words for a fault. -/
def message : Fault → String
  | notFound realm => "Configuration not found for realm " ++ realm
  | malformed cause => "Malformed input: " ++ cause.message
  | database cause => "Database error: " ++ cause.message
  | row cause => "Scan error: " ++ cause.message

/-- Whether all that is wrong is that there is no configuration. -/
def isNotFound : Fault → Bool
  | notFound _ => true
  | _ => false

end Fault

end RealmRegistry.Store
