/-
What the system says of a file, or of anything else that is read or written.
-/
namespace RealmRegistry

/-- What the system says of a file. -/
inductive FileFault where
  | absent
  /-- something else has the name of a directory that is to be made -/
  | occupied
  /-- the path leads through something that is no directory -/
  | notDirectory
  | isDirectory
  /-- a name on the way, or the path as a whole, is too long -/
  | tooLong
  /-- the path holds a NUL -/
  | nul
  /-- its bytes are no text -/
  | notText
  /-- it is there, but not for whoever asks -/
  | denied
  /-- the path leads through a directory that may not be entered -/
  | barred
  /-- anything else, with its number -/
  | reported (code : Nat) (text : String)
deriving DecidableEq

namespace FileFault

/-- The words for a fault of a file. -/
def message : FileFault → String
  | absent => "No such file or directory (os error 2)"
  | occupied => "File exists (os error 17)"
  | notDirectory => "Not a directory (os error 20)"
  | isDirectory => "Is a directory (os error 21)"
  | tooLong => "File name too long (os error 36)"
  | nul => "file name contained an unexpected NUL byte"
  | notText => "stream did not contain valid UTF-8"
  | denied => "Permission denied (os error 13)"
  | barred => "Permission denied (os error 13)"
  | reported code text => text ++ " (os error " ++ toString code ++ ")"

/-- What is wrong with a path wherever it may lead. -/
def ofPath? (path : String) : Option FileFault :=
  if path.toList.contains '\x00' then some nul
  else if 4095 < path.utf8ByteSize then some tooLong
  else if path = "" then some absent
  else none

/-- Whether there is a file all the same, which could not be read as text. -/
def isUnreadable : FileFault → Bool
  | notText => true
  | denied => true
  | reported _ _ => true
  | _ => false

/-- Whether there is something that could not be read as text. -/
def isThere : FileFault → Bool
  | isDirectory => true
  | e => e.isUnreadable

end FileFault

end RealmRegistry
