/-
Entries of a log.

An entry has a level, the name of the part of the program that it comes from, words, and fields
with a name and a value.

* `Limit.admits` — which levels a limit lets through;
* `Entry.text` — an entry as it is shown.
-/
import RealmRegistry.Text.Quoted

namespace RealmRegistry.Log

open Text

/-- How important an entry is. -/
inductive Level where
  | error
  | warn
  | info
  | debug
  | trace
deriving DecidableEq

namespace Level

/-- The levels, the most important first. -/
def all : List Level := [error, warn, info, debug, trace]

/-- The place of a level among the levels, from 1. -/
def rank : Level → Nat
  | error => 1
  | warn => 2
  | info => 3
  | debug => 4
  | trace => 5

/-- The name of a level. -/
def name : Level → String
  | error => "ERROR"
  | warn => "WARN"
  | info => "INFO"
  | debug => "DEBUG"
  | trace => "TRACE"

end Level

/-- The least important level that is let through, none if nothing is. -/
abbrev Limit : Type := Option Level

/-- Whether a limit lets a level through. -/
def Limit.admits : Limit → Level → Bool
  | none, _ => false
  | some limit, level => level.rank ≤ limit.rank

/-- A field of an entry. -/
structure Field where
  name : String
  /-- as it is shown -/
  value : String

/-- An entry of a log. -/
structure Entry where
  level : Level
  source : String
  words : String
  fields : List Field

/-! ### Showing entries -/

/-- Whether a character could change how a terminal shows what follows. -/
def isTerminalControl (c : Char) : Bool :=
  [0x07, 0x08, 0x0c, 0x1b, 0x7f].contains c.toNat || (0x80 ≤ c.toNat && c.toNat ≤ 0x9f)

/-- A character of an entry's words, spelled out if it could change how a terminal shows them. -/
def shownChar (c : Char) : List Char :=
  if !isTerminalControl c then [c]
  else if c.toNat < 0x80 then
    ['\\', 'x'] ++ (if c.toNat < 0x10 then ['0'] else []) ++ hexDigits c.toNat
  else ['\\', 'u', '{'] ++ hexDigits c.toNat ++ ['}']

/-- Puts a text between the sign for a style of the terminal and the sign for none. -/
def styled (style : Nat) (text : String) : String :=
  "\x1b[" ++ toString style ++ "m" ++ text ++ "\x1b[0m"

/-- A field as it is shown: its name in italics and a dim equals sign. -/
def Field.text (f : Field) : String := styled 3 f.name ++ styled 2 "=" ++ f.value

/-- The words of an entry and its fields. -/
def Entry.body (e : Entry) : String :=
  " ".intercalate (.ofList (e.words.toList.flatMap shownChar) :: e.fields.map Field.text)

/-- An entry as it is shown, which may take several lines. -/
def Entry.text (e : Entry) : String := e.level.name ++ " " ++ e.source ++ ": " ++ e.body

end RealmRegistry.Log
