/-
Settings: how an instance stores its records, what it logs and which authorizations it lists.

Each field has its standard value in the layout of its section, and each section the values that it
has as a whole when it is left out.

* `usual` — the values of a section as a whole;
* `standard_eq_usual` — they are the standard values of its fields, so a section that is left out is
  the same as one whose fields are left out.
-/
import RealmRegistry.Access.Action
import RealmRegistry.Text.Blank

namespace RealmRegistry

open Schema Access

/-! ### Storage -/

/-- Where records are stored. -/
inductive StorageKind where
  | sqlite
  | postgres
deriving DecidableEq

namespace StorageKind

/-- The name of a kind of storage. -/
def name : StorageKind → String
  | sqlite => "sqlite"
  | postgres => "postgres"

/-- The usual kind. -/
def usual : StorageKind := sqlite

instance instChoice : Choice StorageKind where
  first := sqlite
  others := [postgres]
  name := name
  index
    | sqlite => 0 | postgres => 1
  get_index a := by cases a <;> rfl
  index_get := by decide

@[simp] theorem standard_eq_usual : standard StorageKind = usual := rfl

end StorageKind

/-- How a database file is used. -/
structure FileStorage where
  maxConnections : UInt32
  /-- in seconds -/
  busyTimeout : UInt64
deriving DecidableEq

namespace FileStorage

/-- The usual use of a database file. -/
def usual : FileStorage where
  maxConnections := 10
  busyTimeout := 5

/-- The fields of a database file's settings. -/
def layout : Layout :=
  .cons "max_connections" (.defaulted (.word 10) true) (.word 32) <|
  .cons "busy_timeout_secs" (.defaulted (.word 5) true) (.word 64) <|
  .nil

instance instShaped : Shaped FileStorage where
  shape := .record "SqliteConfig" layout
  pack s := (s.maxConnections.toFin, s.busyTimeout.toFin, ())
  unpack := fun (a, b, ()) => ⟨.ofFin a, .ofFin b⟩
  unpack_pack _ := rfl
  pack_unpack _ := rfl

@[simp] theorem standard_eq_usual : standard FileStorage = usual := rfl

end FileStorage

/-- How a database server is reached. -/
structure ServerStorage where
  host : String
  port : UInt16
  database : String
  username : String
  password : String
  poolSize : UInt32
  /-- in seconds -/
  maxLifetime : UInt64
deriving DecidableEq

namespace ServerStorage

/-- The fields of a database server's settings. -/
def layout : Layout :=
  .cons "host" .required .text <|
  .cons "port" (.defaulted (.word 5432) true) (.word 16) <|
  .cons "database" .required .text <|
  .cons "username" .required .text <|
  .cons "password" .required .text <|
  .cons "pool_size" (.defaulted (.word 10) true) (.word 32) <|
  .cons "max_lifetime_secs" (.defaulted (.word 1800) true) (.word 64) <|
  .nil

instance instShaped : Shaped ServerStorage where
  shape := .record "PostgresConfig" layout
  pack s :=
    (s.host, s.port.toFin, s.database, s.username, s.password, s.poolSize.toFin,
      s.maxLifetime.toFin, ())
  unpack := fun (a, b, c, d, e, f, g, ()) => ⟨a, .ofFin b, c, d, e, .ofFin f, .ofFin g⟩
  unpack_pack _ := rfl
  pack_unpack _ := rfl

end ServerStorage

/-- How records are stored. -/
structure StorageSettings where
  kind : StorageKind
  file : FileStorage
  server : Option ServerStorage
deriving DecidableEq

namespace StorageSettings

/-- The usual way: in a file. -/
def usual : StorageSettings where
  kind := .usual
  file := .usual
  server := none

/-- The fields of the storage section. -/
def layout : Layout :=
  .cons "backend" (.defaulted .bare true) (Shaped.shape StorageKind) <|
  .cons "sqlite" (.defaulted .bare true) (Shaped.shape FileStorage) <|
  .cons "postgres" .optional (Shaped.shape ServerStorage) <|
  .nil

instance instShaped : Shaped StorageSettings where
  shape := .record "StorageConfig" layout
  pack s := (Shaped.pack s.kind, Shaped.pack s.file, s.server.map Shaped.pack, ())
  unpack := fun (a, b, c, ()) => ⟨Shaped.unpack a, Shaped.unpack b, c.map Shaped.unpack⟩
  unpack_pack s := by simp [Function.comp_def, Shaped.unpack_pack]
  pack_unpack := fun (a, b, c, ()) => by
    simp [Function.comp_def, Shaped.pack_unpack]
    rfl

@[simp] theorem standard_eq_usual : standard StorageSettings = usual := rfl

end StorageSettings

/-! ### Logs -/

/-- Where log lines go. -/
structure LogSettings where
  /-- `console` or `file` -/
  output : String
  /-- a new file for each day -/
  rotate : Bool
  /-- the directory of log files -/
  path : String
deriving DecidableEq

namespace LogSettings

/-- The usual log: on the console. -/
def usual : LogSettings where
  output := "console"
  rotate := false
  path := "logs/"

/-- The fields of the log section. -/
def layout : Layout :=
  .cons "output" (.defaulted (.text "console") true) .text <|
  .cons "rotate" (.defaulted (.flag false) true) .flag <|
  .cons "path" (.defaulted (.text "logs/") true) .text <|
  .nil

instance instShaped : Shaped LogSettings where
  shape := .record "LogConfig" layout
  pack s := (s.output, s.rotate, s.path, ())
  unpack := fun (a, b, c, ()) => ⟨a, b, c⟩
  unpack_pack _ := rfl
  pack_unpack _ := rfl

@[simp] theorem standard_eq_usual : standard LogSettings = usual := rfl

end LogSettings

/-- What is logged, and where. -/
structure ObservabilitySettings where
  /-- a level, and perhaps exceptions from it after commas -/
  filter : String
  log : LogSettings
deriving DecidableEq

namespace ObservabilitySettings

/-- What is usually logged, and where. -/
def usual : ObservabilitySettings where
  filter := "info"
  log := .usual

/-- The fields of the observability section. -/
def layout : Layout :=
  .cons "filter_level" (.defaulted (.text "info") true) .text <|
  .cons "log" (.defaulted .bare true) (Shaped.shape LogSettings) <|
  .nil

instance instShaped : Shaped ObservabilitySettings where
  shape := .record "ObservabilityConfig" layout
  pack s := (s.filter, Shaped.pack s.log, ())
  unpack := fun (a, b, ()) => ⟨a, Shaped.unpack b⟩
  unpack_pack _ := rfl
  pack_unpack _ := rfl

@[simp] theorem standard_eq_usual : standard ObservabilitySettings = usual := rfl

end ObservabilitySettings

/-! ### Authorizations -/

/-- The groups of actions whose authorizations are listed; all actions if there are none. -/
structure AuthorizationSettings where
  scopes : List ActionGroup
deriving DecidableEq

namespace AuthorizationSettings

/-- Usually there are no groups. -/
def usual : AuthorizationSettings where
  scopes := []

/-- The fields of the authorization section. -/
def layout : Layout :=
  .cons "scopes" (.defaulted .bare false) (Shaped.shape (List ActionGroup)) <|
  .nil

instance instShaped : Shaped AuthorizationSettings where
  shape := .record "AuthorizationConfig" layout
  pack s := (Shaped.pack s.scopes, ())
  unpack := fun (a, ()) => ⟨Shaped.unpack a⟩
  unpack_pack s := by simp [Shaped.unpack_pack]
  pack_unpack := fun (a, ()) => by simp [Shaped.pack_unpack]; rfl

@[simp] theorem standard_eq_usual : standard AuthorizationSettings = usual := rfl

end AuthorizationSettings

/-! ### Settings -/

/-- The settings of an instance. -/
structure Settings where
  name : String
  /-- `dev`, `prod` or `test` -/
  environment : String
  /-- the directory of the database file -/
  sqlitePath : String
  storage : StorageSettings
  observability : ObservabilitySettings
  authorization : AuthorizationSettings
deriving DecidableEq

namespace Settings

/-- The fields of the settings. -/
def layout : Layout :=
  .cons "name" .required .text <|
  .cons "env" .required .text <|
  .cons "sqlite_path" .required .text <|
  .cons "storage" (.defaulted .bare true) (Shaped.shape StorageSettings) <|
  .cons "observability" (.defaulted .bare true) (Shaped.shape ObservabilitySettings) <|
  .cons "authorization" (.defaulted .bare true) (Shaped.shape AuthorizationSettings) <|
  .nil

instance instShaped : Shaped Settings where
  shape := .record "RealmStoreConfig" layout
  pack s :=
    (s.name, s.environment, s.sqlitePath, Shaped.pack s.storage, Shaped.pack s.observability,
      Shaped.pack s.authorization, ())
  unpack := fun (a, b, c, d, e, f, ()) =>
    ⟨a, b, c, Shaped.unpack d, Shaped.unpack e, Shaped.unpack f⟩
  unpack_pack s := by simp [Shaped.unpack_pack]
  pack_unpack := fun (a, b, c, d, e, f, ()) => by simp [Shaped.pack_unpack]; rfl

/-- The settings of a fresh instance. -/
def fresh : Settings where
  name := "realmstore-default"
  environment := "dev"
  sqlitePath := "database"
  storage := .usual
  observability := .usual
  authorization := .usual

/-- Whether log lines go to the console. -/
def logsToConsole (s : Settings) : Bool :=
  s.observability.log.output == "console"

/-- Whether log lines go to a new file each day. -/
def rotatesLogs (s : Settings) : Bool :=
  s.observability.log.output == "file" && s.observability.log.rotate

/-- The filter of the log: that of the environment, unless that is blank. -/
def filterLevel (s : Settings) (fromEnvironment : Option String) : String :=
  match fromEnvironment with
  | none => s.observability.filter
  | some text =>
    if Text.isVacant text then s.observability.filter else Text.trim text

end Settings

end RealmRegistry
