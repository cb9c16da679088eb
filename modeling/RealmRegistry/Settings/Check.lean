/-
What is wrong with settings.

All problems are collected, in a fixed order.  Problems that begin with `Warning:` do not keep an
instance from running:

* `Settings.problems` — all that can be said against settings;
* `Settings.check` — the warnings of settings that will do, or else the errors.
-/
import RealmRegistry.Access.Standard
import RealmRegistry.Settings.Basic

namespace RealmRegistry

open Access

namespace Settings

/-! ### Problems -/

/-- Something that can be said against settings. -/
inductive Problem where
  | noName
  | badEnvironment (environment : String)
  | badFilter (filter : String)
  | badOutput (output : String)
  | noFilePath
  | noFileConnections
  | noServerAddress
  | noServerConnections
  | noServer
  | badGroup (cause : Catalog.GroupProblem)
  | consoleInProduction
  | singleFileInProduction
deriving DecidableEq

/-- The words for a problem. -/
def Problem.message : Problem → String
  | noName => "Instance name cannot be empty"
  | badEnvironment environment =>
    "Invalid environment '" ++ environment ++ "', must be one of: dev, prod, test"
  | badFilter filter =>
    "Invalid filter level '" ++ filter ++
      "', must start with one of: trace, debug, info, warn, error"
  | badOutput output =>
    "Invalid log output '" ++ output ++
      "' (observability.log.output), must be 'console' or 'file'"
  | noFilePath => "SQLite database path cannot be empty"
  | noFileConnections => "storage.sqlite.max_connections must be greater than 0"
  | noServerAddress => "storage.postgres.host and storage.postgres.database are required"
  | noServerConnections => "storage.postgres.pool_size must be greater than 0"
  | noServer => "Storage is configured to use PostgreSQL but postgres config is missing"
  | badGroup cause => "Authorization scope error: " ++ cause.message
  | consoleInProduction =>
    "Warning: Production environment should use file logging " ++
      "(observability.log.output = \"file\")"
  | singleFileInProduction =>
    "Warning: Production environment should enable log rotation " ++
      "(observability.log.rotate = true)"

/-- Whether a problem is only a warning, which its words say at their beginning. -/
def Problem.isWarning (p : Problem) : Bool :=
  "Warning:".toList.isPrefixOf p.message.toList

/-! ### The conditions -/

/-- The levels that a filter may begin with. -/
def levels : List String := ["trace", "debug", "info", "warn", "error"]

/-- The first part of a filter, up to a comma. -/
def mainLevel (filter : String) : String :=
  String.ofList (Text.trimChars (filter.toList.takeWhile (· != ',')))

/-- A problem where there is one. -/
def complainIf (bad : Bool) (p : Problem) : List Problem :=
  if bad then [p] else []

/-- The problems of a database file's settings. -/
def fileProblems (s : Settings) : List Problem :=
  complainIf (Text.isVacant s.sqlitePath) .noFilePath ++
    complainIf (s.storage.file.maxConnections == 0) .noFileConnections

/-- The problems of a database server's settings. -/
def serverProblems (s : Settings) : List Problem :=
  match s.storage.server with
  | none => [.noServer]
  | some server =>
    complainIf (Text.isVacant server.host || Text.isVacant server.database) .noServerAddress ++
      complainIf (server.poolSize == 0) .noServerConnections

/-- The problems of the storage in use. -/
def storageProblems (s : Settings) : List Problem :=
  match s.storage.kind with
  | .sqlite => s.fileProblems
  | .postgres => s.serverProblems

/-- What is said against a log that is no log for production. -/
def productionProblems (s : Settings) : List Problem :=
  if s.environment = "prod" then
    complainIf s.logsToConsole .consoleInProduction ++
      complainIf (s.observability.log.output == "file" && !s.observability.log.rotate)
        .singleFileInProduction
  else []

/-- All that can be said against settings. -/
def problems (s : Settings) : List Problem :=
  complainIf (Text.isVacant s.name) .noName ++
    complainIf (!(["dev", "prod", "test"].contains s.environment))
      (.badEnvironment s.environment) ++
    complainIf (!levels.contains (mainLevel s.observability.filter))
      (.badFilter s.observability.filter) ++
    complainIf (!(["console", "file"].contains s.observability.log.output))
      (.badOutput s.observability.log.output) ++
    s.storageProblems ++
    (Catalog.standard.problems s.authorization.scopes).map .badGroup ++
    s.productionProblems

/-- The warnings of settings that will do; of other settings the problems that are more than
warnings. -/
def check (s : Settings) : Except (List Problem) (List Problem) :=
  let (warnings, errors) := s.problems.partition Problem.isWarning
  if errors.isEmpty then .ok warnings else .error errors

/-- The scope of the groups that settings name. -/
def scope (s : Settings) (c : Catalog) : Scope :=
  c.scopeFor s.authorization.scopes

end Settings

end RealmRegistry
