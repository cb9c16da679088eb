/-
What a command needs of its surroundings: files, the tables of a database in a file, the wishes of
whoever started it about the log, someone to tell, and a place for its answer.

Whatever is read or written may fail, and so may keeping the tables of a database and printing an
answer.
-/
import RealmRegistry.Files.Fault
import RealmRegistry.Log.Entry
import RealmRegistry.Schema.Toml
import RealmRegistry.Store.Fault
import RealmRegistry.Store.Tables

namespace RealmRegistry.Command

open Schema Store

/-- Surroundings in which commands are carried out. -/
class Host (m : Type → Type) where
  /-- the text of a file -/
  readText : String → m (Except FileFault String)
  /-- makes a directory where nothing is -/
  makeDirectory : String → m (Except FileFault Unit)
  /-- makes a file unless it is there -/
  touch : String → m (Except FileFault Unit)
  /-- the tables of the database in a file, making what is missing -/
  openDatabase : String → m (Except DatabaseFault Tables)
  /-- keeps the tables of a database in its file, all of them or none -/
  saveDatabase : String → Tables → m (Except DriverFault Unit)
  /-- the filter of the log that whoever started the command asks for -/
  logFilter : m (Option String)
  /-- shows an entry of the log to whoever started the command -/
  display : Log.Entry → m Unit
  /-- tells whoever started the command -/
  notify : String → m Unit
  /-- what the reader of TOML says of a text that is none, or not what it should be -/
  explain : String → TomlComplaint → String
  /-- prints a text, or as much of it as is taken -/
  print : String → m (Except FileFault Unit)

end RealmRegistry.Command
