/-
The program: commands carried out in the file system.
-/
import RealmRegistry.Command.Run
import RealmRegistry.Store.Archive

namespace RealmRegistry

open Store Command

/-- Whether a number is a code of the system; codes may come with either sign. -/
def isCode (code : UInt32) (n : UInt32) : Bool := n == code || n == 0 - code

/-- A code of the system without its sign. -/
def codeOf (n : UInt32) : Nat := if n < 0x80000000 then n.toNat else (0 - n).toNat

/-- What an error of the system says of a file. -/
def faultOf : IO.Error → FileFault
  | .noFileOrDirectory .. => .absent
  | .noSuchThing .. => .absent
  | .alreadyExists .. => .occupied
  | .inappropriateType _ code text =>
    if isCode 21 code then .isDirectory
    else if isCode 20 code then .notDirectory
    else .reported (codeOf code) text
  | .invalidArgument _ code text =>
    if isCode 36 code then .tooLong else .reported (codeOf code) text
  | .permissionDenied _ code text =>
    if isCode 13 code then .denied else .reported (codeOf code) text
  | .resourceExhausted _ code text => .reported (codeOf code) text
  | .interrupted _ code text => .reported (codeOf code) text
  | .otherError code text => .reported (codeOf code) text
  | .resourceBusy code text => .reported (codeOf code) text
  | .resourceVanished code text => .reported (codeOf code) text
  | .unsupportedOperation code text => .reported (codeOf code) text
  | .hardwareFault code text => .reported (codeOf code) text
  | .unsatisfiedConstraints code text => .reported (codeOf code) text
  | .illegalOperation code text => .reported (codeOf code) text
  | .protocolError code text => .reported (codeOf code) text
  | .timeExpired code text => .reported (codeOf code) text
  -- what the system has no code for is said of bytes that are no text
  | .unexpectedEof => .notText
  | .userError _ => .notText

/-- The outcome of an action. -/
def attempted {α : Type} (action : IO α) : IO (Except FileFault α) := do
  try
    return .ok (← action)
  catch e => return .error (faultOf e)

/-- Whether a path leads to anything, be it for whoever asks or not. -/
def leadsSomewhere (path : String) : IO Bool := do
  return (← attempted (IO.FS.realPath path)).isOk

/-- The outcome of an action on a file. -/
def attemptAt {α : Type} (path : String) (action : IO α) : IO (Except FileFault α) := do
  match FileFault.ofPath? path with
  | some e => return .error e
  | none =>
    match ← attempted action with
    | .error .denied => return .error (if ← leadsSomewhere path then .denied else .barred)
    | outcome => return outcome

/-- Keeps the tables of a database in its file, which has the old ones until all new ones are
written. -/
def saveToFile (path : String) (tables : Tables) : IO Unit := do
  let draft := path ++ "-new"
  IO.FS.writeFile draft tables.archive
  IO.FS.rename draft path

/-- What a database reports of a file that cannot be written. -/
def reportOf : FileFault → DriverFault
  | .denied => .engine 8 "attempt to write a readonly database"
  | .barred => .engine 8 "attempt to write a readonly database"
  | .reported 28 _ => .engine 13 "database or disk is full"
  | _ => .engine 10 "disk I/O error"

/-- The tables of the database in a file, which is made if it is not there. -/
def openFile (path : String) : IO (Except DatabaseFault Tables) := do
  match ← attemptAt path (IO.FS.readFile path) with
  | .ok text =>
    match Tables.ofArchive? text with
    | some tables => return .ok tables.complete
    | none => return .error .noDatabase
  | .error .absent =>
    match ← attemptAt path (saveToFile path .empty) with
    | .ok () => return .ok .empty
    | .error _ => return .error .cannotOpen
  | .error .notText => return .error .noDatabase
  | .error _ => return .error .cannotOpen

/-- Prints a text at once. -/
def printOut (text : String) : IO Unit := do
  let output ← IO.getStdout
  output.putStr text
  output.flush

instance instHost : Host IO where
  readText path := attemptAt path (IO.FS.readFile path)
  makeDirectory path := attemptAt path (IO.FS.createDir path)
  touch path := attemptAt path (IO.FS.withFile path .append fun _ => return ())
  openDatabase := openFile
  saveDatabase path tables := do
    return (← attemptAt path (saveToFile path tables)).mapError reportOf
  logFilter := IO.getEnv "RUST_LOG"
  display e := IO.eprintln e.text
  notify := IO.eprintln
  explain _ e := e.words
  print text := attempted (printOut text)

end RealmRegistry

/-- Carries out the command line of the program. -/
def main (args : List String) : IO UInt32 := do
  let code : Nat ← RealmRegistry.Command.program args
  return code.toUInt32
