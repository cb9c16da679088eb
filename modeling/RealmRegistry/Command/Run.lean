/-
Carrying out commands.

A command goes by a file of settings, which is found, read and checked before anything else
happens; a store is opened only for a command that needs it.

* `loadSettings` — the settings of a file;
* `openRegistry` — the registry that settings describe;
* `Command.execute` — the document with which a command answers;
* `run` — what comes of a command line;
* `program` — the same, answered or complained of.
-/
import RealmRegistry.Command.Failure
import RealmRegistry.Command.Help
import RealmRegistry.Command.Host
import RealmRegistry.Command.Journal
import RealmRegistry.Files.Path
import RealmRegistry.Json.Sorted
import RealmRegistry.Registry.Replacement
import RealmRegistry.Store.Address
import RealmRegistry.Store.Relational

namespace RealmRegistry

open Schema Access Store Text

namespace Command

variable {m : Type → Type} [Monad m] [Host m]

/-- An attempt, with its faults as failures of the command. -/
def attempt {ε α : Type} (f : ε → Failure) (x : m (Except ε α)) : ExceptT Failure m α :=
  .mk (do return (← x).mapError f)

/-- Tells several things in turn. -/
def notifyAll : List String → m Unit
  | [] => pure ()
  | text :: r => do
    Host.notify text
    notifyAll r

/-- Tells several things on the way of a command. -/
def tell (texts : List String) : ExceptT Failure m Unit := .lift (notifyAll texts)

/-- The lines of a numbered list, from the `n`-th. -/
def numbered (n : Nat) : List String → List String
  | [] => []
  | text :: r => ("  " ++ toString n ++ ". " ++ text) :: numbered (n + 1) r

/-! ### Finding settings -/

/-- Whether there is anything in a path. -/
def isThere (path : String) : m Bool := do
  match ← Host.readText path with
  | .ok _ => return true
  | .error e => return e.isThere

/-- Where settings are looked for. -/
def places : List String := [Request.usualPath, "/etc/realmstore/config.toml"]

/-- The first path in which there is anything. -/
def firstThere? : List String → m (Option String)
  | [] => return none
  | path :: r => do
    if ← isThere path then return some path
    firstThere? r

/-- What is told when there are no settings. -/
def noSettingsNotices : List String :=
  ["No configuration file found!", "Please create a config file in one of these locations:"] ++
    numbered 1 (places.map quoted) ++
    ["Or specify a custom path with: realmstore --config <path>"]

/-- The path of the settings: the one that is named, or the first of the usual ones if that is
the one that is named. -/
def findSettings (path : String) : ExceptT Failure m String := do
  if Path.names path = Path.names Request.usualPath then
    match ← ExceptT.lift (firstThere? places) with
    | some found => return found
    | none =>
      tell noSettingsNotices
      throw .noSettings
  else if ← ExceptT.lift (isThere path) then return path
  else
    tell ["Provided config file not found: " ++ quoted path]
    throw (.noSuchSettings path)

/-- The settings in a file, whether or not they will do. -/
def readSettings (path : String) : m (Except SettingsFailure Settings) := do
  match ← Host.readText path with
  | .ok text =>
    return (fromToml Settings text).mapError fun e =>
      @SettingsFailure.unfit (Host.explain (m := m) text e) e
  | .error e => return .error (if e.isUnreadable then .unreadable e else .absent path)

/-- The settings in a file, if they will do. -/
def loadSettings (path : String) : ExceptT Failure m Settings := do
  match ← ExceptT.lift (readSettings path) with
  | .error e =>
    tell ["❌ 配置加载失败: " ++ e.message]
    throw (.settings e)
  | .ok s =>
    match s.accept with
    | .ok warnings =>
      tell (numbered 1 (warnings.map ("⚠️  " ++ ·)))
      return s
    | .error e =>
      match e with
      | .invalid problems => tell (numbered 1 (problems.map ("❌ " ++ ·)))
      | _ => pure ()
      throw (.settings e)

/-! ### Directories -/

/-- Whether a path leads to a directory. -/
def isDirectory (path : String) : m Bool := do
  match ← Host.readText path with
  | .error .isDirectory => return true
  | _ => return false

/-- What comes of making a directory: that it is there already is no fault. -/
def settled (path : String) (outcome : Except FileFault Unit) : m (Except FileFault Unit) := do
  match outcome with
  | .ok () => return .ok ()
  | .error e => return if ← isDirectory path then .ok () else .error e

/-- Makes the first of some directories, of which each is in the next one.  The next one is made
if it is missing, and stays if the first one cannot be made all the same. -/
def makeNested : List String → m (Except FileFault Unit)
  | [] => return .ok ()
  | path :: outer => do
    match ← Host.makeDirectory path with
    | .error .absent =>
      match ← makeNested outer with
      | .ok () => settled path (← Host.makeDirectory path)
      | .error e => return .error e
    | outcome => settled path outcome

/-- Makes a directory and those in which it is, unless they are there. -/
def makeDirectories (path : String) : m (Except FileFault Unit) := makeNested (Path.ancestors path)

/-! ### What settings describe -/

/-- The log file in the directory of log files. -/
def logName : String := "realmstore.log"

/-- The filter of a text, or the usual one if the text is none, which is told. -/
def filterOf (text : String) : m Log.Filter := do
  match Log.Filter.parse? text with
  | some f => return f
  | none =>
    Host.notify
      ("Failed to parse filter directive: " ++ text ++ ". Falling back to default: info")
    return .upTo .info

/-- Makes the directory of log files, and the log file unless there is one for each day. -/
def makeLogFile (s : Settings) : ExceptT Failure m Unit := do
  let log := s.observability.log
  attempt .logs (makeDirectories log.path)
  if !s.rotatesLogs then attempt .logs (Host.touch (Path.join log.path logName))

/-- Opens the log that settings describe. -/
def openLog (s : Settings) : ExceptT Failure m Journal := do
  let toFile := s.observability.log.output == "file"
  if toFile then makeLogFile s
  let filter ← ExceptT.lift (do filterOf (s.filterLevel (← Host.logFilter)))
  return ⟨filter, !toFile⟩

/-- Writes an entry to the log. -/
def record (j : Journal) (e : Log.Entry) : m Unit := do
  if j.shows e then Host.display e

/-- Writes entries to the log. -/
def recordAll (j : Journal) : List Log.Entry → m Unit
  | [] => pure ()
  | e :: r => do
    record j e
    recordAll j r

/-- An answer of a registry, with its faults as failures of the command that are logged. -/
def ask {α : Type} (j : Journal) (entries : Fault → List Log.Entry) (x : Except Fault α) :
    ExceptT Failure m α := do
  match x with
  | .ok a => return a
  | .error e =>
    ExceptT.lift (recordAll j (entries e))
    throw (.underlying (.store e))

/-- The path of the database. -/
def databasePath (s : Settings) : String := Path.join s.sqlitePath "realmstore.db"

/-- The address of the database. -/
def databaseAddress (s : Settings) : String := "sqlite:" ++ databasePath s

/-- The failure for a database that cannot be used. -/
def unusable (e : DatabaseFault) : Failure := .underlying (.store (.database e))

/-- The tables where a database is. -/
def tablesAt : Location → m (Except DatabaseFault Tables)
  | .memory => return .ok .empty
  | .file path => Host.openDatabase path

/-- Opens the database that settings describe, and says where it is. -/
def openDatabase (s : Settings) : ExceptT Failure m (Location × Relational) := do
  attempt (fun e => .underlying (.file e)) (makeDirectories s.sqlitePath)
  let location ← attempt unusable (pure (Location.ofAddress (databaseAddress s)))
  let tables ← attempt unusable (tablesAt location)
  let file := s.storage.file
  let database ← attempt unusable
    (pure (Relational.connect file.maxConnections.toNat file.busyTimeout.toNat tables))
  return (location, database)

/-- Keeps a database where it is. -/
def keepDatabase (location : Location) (database : Relational) : m (Except DriverFault Unit) :=
  match location with
  | .memory => return .ok ()
  | .file path => Host.saveDatabase path database.tables

/-- The registry that settings describe, and where its database is. -/
def openRegistry (s : Settings) (j : Journal) :
    ExceptT Failure m (Location × Registry Relational) := do
  match s.storage.kind with
  | .sqlite =>
    let (location, database) ← openDatabase s
    ExceptT.lift
      (record j (Journal.opened (databasePath s) s.storage.file.maxConnections.toNat))
    return (location, ⟨database, s.scope Catalog.standard⟩)
  | .postgres => throw (unusable .noServerSupport)

/-! ### Answers -/

/-- The actions of a service, or all. -/
def listed (c : Catalog) (service : Option Service) : List Action :=
  match service with
  | none => c.actions
  | some s => c.forService s

/-- Both configurations of a realm as one document, which has its members in order. -/
def bothDocument (configuration : RealmConfiguration) (admin : AdminConfiguration) : Json :=
  (Json.object [("configuration", toJson configuration),
    ("admin_configuration", toJson admin)]).sorted

/-- What is said of context keys that were replaced. -/
def replacedDocument (customer : String) (count : Nat) : Json :=
  .object [("context_keys", .integer count), ("customer_realm", .text customer)]

/-- A registry with the scope of a service, if one is given. -/
def rescoped (r : Registry Relational) (service : Option Service) (apis : List Api) :
    Registry Relational :=
  match service with
  | none => r
  | some s => { r with scope := Catalog.standard.scopeFor [⟨s, apis⟩] }

/-- What comes of a change, the outcome of which is kept with the database: what is not kept is not
committed. -/
def committed (outcome : Except Fault Unit) (kept : Except DriverFault Unit) :
    Except Fault Unit :=
  match outcome with
  | .error e => .error e
  | .ok () => kept.mapError fun e => .database (.noCommit e)

/-- Replaces the context keys of a customer realm by those of a file.  Whatever comes of it, the
database is kept as it is then. -/
def replaceFromFile (s : Settings) (j : Journal) (customer path : String) :
    ExceptT Failure m Json := do
  let (location, r) ← openRegistry s j
  let text ← attempt (.keysUnreadable path) (Host.readText path)
  let keys ← attempt (.keysUnfit path) (pure (fromText (List ContextKey) text))
  let (outcome, after) := r.replaceContextKeys customer keys
  let kept ← ExceptT.lift (keepDatabase location after.database)
  ask j (Journal.replacementFailed r customer keys) (committed outcome kept)
  ExceptT.lift (record j (Journal.replaced customer keys.length))
  return replacedDocument customer keys.length

/-- The document with which a command answers. -/
def execute (c : Command) (s : Settings) (j : Journal) : ExceptT Failure m Json := do
  match c with
  | test _ => throw .needsNoStore
  | listActions service => return toJson (listed Catalog.standard service)
  | getConfig realm =>
    let (_, r) ← openRegistry s j
    let entry := Journal.configurationFailed "Realm configuration" "configuration" realm
    return toJson (← ask j (fun e => [entry e]) (r.configuration realm))
  | getAdminConfig realm =>
    let (_, r) ← openRegistry s j
    let entry :=
      Journal.configurationFailed "Realm admin configuration" "admin_configuration" realm
    return toJson (← ask j (fun e => [entry e]) (r.adminConfiguration realm))
  | getConfigs realm =>
    let (_, r) ← openRegistry s j
    let entry :=
      Journal.configurationFailed "Realm configurations" "realm configurations" realm
    let (configuration, admin) ← ask j (fun e => [entry e]) (r.configurations realm)
    return bothDocument configuration admin
  | getContextKeys customer =>
    let (_, r) ← openRegistry s j
    return toJson
      (← ask j (fun e => [Journal.contextKeysFailed customer e]) (r.contextKeys customer))
  | setContextKeys customer path => replaceFromFile s j customer path
  | listAuthorizations service apis =>
    let (_, r) ← openRegistry s j
    return toJson
      (← ask j (fun e => [Journal.authorizationsFailed e])
        (rescoped r service apis).authorizations)

/-- What comes of a request. -/
inductive Answer where
  /-- settings that will do -/
  | accepted (settings : Settings)
  | document (v : Json)

/-- What is printed of an answer. -/
def Answer.output : Answer → String
  | accepted _ => ""
  | document v => v.pretty ++ "\n"

/-- Checks the settings in a file. -/
def testSettings (path : String) : ExceptT Failure m Settings := do
  let found ← findSettings path
  match ← ExceptT.lift (loadSettings found).run with
  | .ok s =>
    ExceptT.lift (Host.display (Journal.accepted found s))
    return s
  | .error e =>
    ExceptT.lift (Host.display (Journal.rejected e))
    throw e

/-- Carries out a command by the settings in a file. -/
def perform (c : Command) (path : String) : ExceptT Failure m Json := do
  let found ← findSettings path
  let s ← loadSettings found
  let j ← openLog s
  ExceptT.lift (record j (Journal.started found s))
  match ← ExceptT.lift (c.execute s j).run with
  | .ok v => return v
  | .error e =>
    ExceptT.lift (record j (Journal.failed e))
    throw e

/-- Carries out a request. -/
def serve (r : Request) : ExceptT Failure m Answer := do
  match r.command with
  | test path => return .accepted (← testSettings (path.getD r.settingsPath))
  | c => return .document (← c.perform r.settingsPath)

/-! ### Command lines -/

/-- What comes of a command line. -/
inductive Outcome where
  | usage (u : Usage)
  | failed (e : Failure)
  | answered (a : Answer)

namespace Outcome

/-- What is printed. -/
def output : Outcome → String
  | usage .help => helpText
  | usage .version => versionText
  | usage _ => ""
  | failed _ => ""
  | answered a => a.output

/-- What is said of a command line from which nothing comes. -/
def complaint? : Outcome → Option String
  | usage u => u.message?
  | failed e => some ("Error: " ++ e.message)
  | answered _ => none

/-- The exit code. -/
def exitCode : Outcome → Nat
  | usage u => u.exitCode
  | failed _ => 1
  | answered _ => 0

end Outcome

/-- Carries out a command line. -/
def run (args : List String) : m Outcome := do
  match Request.ofArguments args with
  | .error u => return .usage u
  | .ok r =>
    match ← (serve r).run with
    | .ok a => return .answered a
    | .error e => return .failed e

/-! ### Answering -/

/-- The exit code of a program that breaks off because its answer is not taken. -/
def brokenOff : Nat := 101

/-- Prints what there is to print. -/
def print (text : String) : m (Except FileFault Unit) :=
  if text = "" then return .ok () else Host.print text

/-- Prints an outcome or complains of it, and gives the exit code.  An answer has to be printed as a
whole, unlike a text about the usage. -/
def Outcome.report (o : Outcome) : m Nat := do
  match o, ← print o.output with
  | answered _, .error e =>
    Host.notify ("failed printing to stdout: " ++ e.message)
    return brokenOff
  | _, _ =>
    notifyAll o.complaint?.toList
    return o.exitCode

/-- Carries out a command line and answers it.  The answer comes last: what the command did is done
even if nobody takes it. -/
def program (args : List String) : m Nat := do
  let outcome ← run args
  outcome.report

end Command

end RealmRegistry
