/-
Files in a tree of directories, seen from a working directory.

A place is the list of names that lead to it.  Outside the working directory there are only the
directory of all files, under the name `/`, and those in which the working directory is, under the
names `..`, unless something else was put there.

* `Tree.locate` — the place to which a path leads;
* `Tree.readText`, `Tree.makeDirectory`, `Tree.touch` — what a program does with files;
* `Tree.openDatabase`, `Tree.saveDatabase` — databases in files.
-/
import RealmRegistry.Files.Fault
import RealmRegistry.Files.Path
import RealmRegistry.Store.Tables

namespace RealmRegistry

open Store

/-- The names that lead to a place. -/
abbrev Place : Type := List String

/-- What is in a place. -/
inductive Entry where
  | directory
  /-- a file; without text if its bytes are none -/
  | file (text : Option String)
  /-- a file that may be neither read nor written -/
  | sealed
  | database (tables : Tables)

/-- What is in the places of a tree. -/
structure Tree where
  entry : Place → Option Entry

namespace Tree

/-- A tree without files. -/
def empty : Tree := ⟨fun _ => none⟩

/-- Puts something in a place. -/
def put (t : Tree) (place : Place) (e : Entry) : Tree :=
  ⟨fun p => if p = place then some e else t.entry p⟩

/-- Whether a place is there before anything is put anywhere: the working directory, one in which it
is, or the directory of all files. -/
def isGiven (place : Place) : Bool :=
  place == [Path.top] || place.all (· == Path.up)

/-- What is in a place. -/
def find? (t : Tree) (place : Place) : Option Entry :=
  if isGiven place then some .directory else t.entry place

@[simp] theorem entry_put (t : Tree) (place p : Place) (e : Entry) :
    (t.put place e).entry p = if p = place then some e else t.entry p := rfl

/-! ### Walking -/

/-- The place one step further. -/
def advance (place : Place) (step : String) : Place :=
  if step = Path.here then place
  else if step = Path.top then [Path.top]
  else if step = Path.up then
    if place = [Path.top] then place
    else if isGiven place then place ++ [step]
    else place.dropLast
  else place ++ [step]

/-- The place to which a step leads from a place that has to be a directory. -/
def stepFrom (t : Tree) (place : Place) (step : String) : Except FileFault Place :=
  match t.find? place with
  | some .directory =>
    if 255 < step.utf8ByteSize then .error .tooLong else .ok (advance place step)
  | some _ => .error .notDirectory
  | none => .error .absent

/-- The place to which steps lead from a place; all but the last have to lead to directories. -/
def locate (t : Tree) (place : Place) : List String → Except FileFault Place
  | [] => .ok place
  | step :: r =>
    match t.stepFrom place step with
    | .ok next => t.locate next r
    | .error e => .error e

/-- The place of a path. -/
def placeOf (t : Tree) (path : String) : Except FileFault Place :=
  match FileFault.ofPath? path with
  | some e => .error e
  | none => t.locate [] (Path.steps path)

/-- What a path leads to. -/
def lookup (t : Tree) (path : String) : Except FileFault Entry :=
  match t.placeOf path with
  | .error e => .error e
  | .ok place =>
    match t.find? place with
    | some e => .ok e
    | none => .error .absent

/-! ### Files -/

/-- The text of a file. -/
def readText (t : Tree) (path : String) : Except FileFault String :=
  match t.lookup path with
  | .error e => .error e
  | .ok .directory => .error .isDirectory
  | .ok (.file (some text)) => .ok text
  | .ok (.file none) => .error .notText
  | .ok .sealed => .error .denied
  | .ok (.database _) => .error .notText

/-- Whether a path leads to anything. -/
def hasEntry (t : Tree) (path : String) : Bool :=
  (t.lookup path).isOk

/-- Puts a file in the place of a path, over one that is there. -/
def writeFile (t : Tree) (path : String) (text : Option String) : Except FileFault Tree :=
  match t.placeOf path with
  | .error e => .error e
  | .ok place =>
    match t.find? place with
    | some .directory => .error .isDirectory
    | some .sealed => .error .denied
    | _ => .ok (t.put place (.file text))

/-- Makes a file unless there is one. -/
def touch (t : Tree) (path : String) : Except FileFault Tree :=
  match t.placeOf path with
  | .error e => .error e
  | .ok place =>
    match t.find? place with
    | some .directory => .error .isDirectory
    | some .sealed => .error .denied
    | some _ => .ok t
    | none => .ok (t.put place (.file (some "")))

/-- Makes a directory where nothing is; a slash at the end of the path says nothing more. -/
def makeDirectory (t : Tree) (path : String) : Except FileFault Tree :=
  match FileFault.ofPath? path with
  | some e => .error e
  | none =>
    match t.locate [] (Path.innerSteps path) with
    | .error e => .error e
    | .ok place =>
      match t.find? place with
      | some _ => .error .occupied
      | none => .ok (t.put place .directory)

/-! ### Databases -/

/-- The tables in a file, or new ones where nothing is.  An empty file is a new database. -/
def openDatabase (t : Tree) (path : String) : Except DatabaseFault (Tables × Tree) :=
  match t.placeOf path with
  | .error _ => .error .cannotOpen
  | .ok place =>
    let opened (tables : Tables) : Tables × Tree :=
      (tables.complete, t.put place (.database tables.complete))
    match t.find? place with
    | none => .ok (opened .empty)
    | some (.database tables) => .ok (opened tables)
    | some (.file (some "")) => .ok (opened .empty)
    | some (.file _) => .error .noDatabase
    | some .sealed => .error .cannotOpen
    | some .directory => .error .cannotOpen

/-- Keeps tables in a file. -/
def saveDatabase (t : Tree) (path : String) (tables : Tables) : Tree :=
  match t.placeOf path with
  | .error _ => t
  | .ok place => t.put place (.database tables)

end Tree

end RealmRegistry
