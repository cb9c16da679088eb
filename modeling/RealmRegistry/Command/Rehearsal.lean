/-
Commands rehearsed: files are in a tree and what is shown is kept, so a run is a function.

* `Rehearsal` — surroundings in which nothing is in the way;
* `Trial` — surroundings in which a database may not be kept, and an answer may not be taken.
-/
import RealmRegistry.Command.Run
import RealmRegistry.Files.Tree

namespace RealmRegistry.Command

open Store

/-- Something that whoever started a command gets to see. -/
inductive Remark where
  | notice (text : String)
  | entry (e : Log.Entry)
  /-- an answer, or a part of it -/
  | answer (text : String)

namespace Remark

/-- The notice of a remark that is one. -/
def notice? : Remark → Option String
  | notice text => some text
  | _ => none

/-- How a remark is shown beside the answer. -/
def told? : Remark → Option String
  | notice text => some text
  | entry e => some e.text
  | answer _ => none

/-- What a remark is of the answer. -/
def answer? : Remark → Option String
  | answer text => some text
  | _ => none

end Remark

/-- Files, and what was seen so far. -/
structure Rehearsal where
  files : Tree
  remarks : List Remark

namespace Rehearsal

/-- Nothing is there and nothing was seen. -/
def empty : Rehearsal := ⟨.empty, []⟩

/-- The notices so far. -/
def notices (r : Rehearsal) : List String := r.remarks.filterMap Remark.notice?

/-- The lines seen so far beside the answer. -/
def lines (r : Rehearsal) : List String := (r.remarks.filterMap Remark.told?).flatMap Text.linesOf

/-- What was printed so far. -/
def printed (r : Rehearsal) : String := String.join (r.remarks.filterMap Remark.answer?)

/-- Adds a remark. -/
def add (m : Remark) : StateM Rehearsal Unit := fun s =>
  ((), { s with remarks := s.remarks ++ [m] })

/-- What a change of the files comes to; one that fails leaves them as they were. -/
def change {ε : Type} (f : Tree → Except ε Tree) : StateM Rehearsal (Except ε Unit) := fun s =>
  match f s.files with
  | .ok files => (.ok (), { s with files := files })
  | .error e => (.error e, s)

/-- The tables in a file. -/
def openDatabase (path : String) : StateM Rehearsal (Except DatabaseFault Tables) := fun s =>
  match s.files.openDatabase path with
  | .ok (tables, files) => (.ok tables, { s with files := files })
  | .error e => (.error e, s)

instance instHost : Host (StateM Rehearsal) where
  readText path s := (s.files.readText path, s)
  makeDirectory path := change (Tree.makeDirectory · path)
  touch path := change (Tree.touch · path)
  openDatabase := openDatabase
  saveDatabase path tables s := (.ok (), { s with files := s.files.saveDatabase path tables })
  logFilter s := (none, s)
  display e := add (.entry e)
  notify text := add (.notice text)
  explain _ e := e.words
  print text := do
    add (.answer text)
    return .ok ()

end Rehearsal

/-- A rehearsal on a disk that may not keep what it is given, with an output that may end. -/
structure Trial extends Rehearsal where
  /-- the filter of the log that is asked for -/
  wish : Option String
  /-- what is said of tables that cannot be kept in a file -/
  refusal? : String → Tables → Option DriverFault
  /-- how many more characters are taken, if not all are, and what is said of the next one -/
  limit : Option (Nat × FileFault)

namespace Trial

/-- A step of the rehearsal. -/
def within {α : Type} (x : StateM Rehearsal α) : StateM Trial α := fun w =>
  let (a, r) := x w.toRehearsal
  (a, { w with toRehearsal := r })

/-- Keeps tables, unless that is refused. -/
def saveDatabase (path : String) (tables : Tables) : StateM Trial (Except DriverFault Unit) :=
  fun w =>
    match w.refusal? path tables with
    | none => within (Host.saveDatabase path tables) w
    | some e => (.error e, w)

/-- Prints a text up to the limit. -/
def print (text : String) : StateM Trial (Except FileFault Unit) := fun w =>
  match w.limit with
  | none => within (Host.print text) w
  | some (n, e) =>
    let (_, w) := within (Host.print (String.ofList (text.toList.take n))) w
    (if text.length ≤ n then .ok () else .error e, { w with limit := some (n - text.length, e) })

instance instHost : Host (StateM Trial) where
  readText path := within (Host.readText path)
  makeDirectory path := within (Host.makeDirectory path)
  touch path := within (Host.touch path)
  openDatabase path := within (Host.openDatabase path)
  saveDatabase := saveDatabase
  logFilter w := (w.wish, w)
  display e := within (Host.display e)
  notify text := within (Host.notify text)
  explain _ e := e.words
  print := print

end Trial

end RealmRegistry.Command
