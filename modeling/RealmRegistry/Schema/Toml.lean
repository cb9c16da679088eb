/-
Shaped values as TOML documents.

* `toToml` — the text of a shaped value: own entries first, then a header for each record in it;
* `fromToml` — the shaped value of a text.

Whole numbers of TOML have 64 bits with a sign, so a word may be too large to be written.
-/
import RealmRegistry.Schema.Json
import RealmRegistry.Toml.Parser
import RealmRegistry.Toml.Printer

namespace RealmRegistry.Schema

/-! ### Reading -/

/-- The key under which a date or time is seen as a table. -/
def momentKey : String := "datetime"

/-- One level of a TOML value. -/
def viewToml : Toml → View Toml
  | .flag b => .flag b
  | .integer i => .integer i
  | .float x => .float x
  | .text s => .text s
  | .moment written => .table [(momentKey, .text written)]
  | .list items => .list items
  | .table members => .table members
  | .tables elements => .list (elements.map .table)

/-- Nothing may be in the member that names a choice. -/
def bareOfToml : Toml → Except Mismatch Unit
  | .table [] => .ok ()
  | .table _ => .error .loadedChoice
  | .list [] => .ok ()
  | .list _ => .error .loadedChoice
  | .tables _ => .error .repeatedChoice
  | .flag _ => .error (.scalarChoice "boolean")
  | .integer _ => .error (.scalarChoice "integer")
  | .float _ => .error (.scalarChoice "float")
  | .text _ => .error (.scalarChoice "string")
  | .moment _ => .error (.scalarChoice "datetime")

/-- A choice is a name, or a table with the name as its one key and nothing in it. -/
def choiceOfToml : Toml → Except Mismatch (String × Except Mismatch Unit)
  | .text name => .ok (name, .ok ())
  | .table [] => .error .emptyChoice
  | .table [(name, v)] => .ok (name, bareOfToml v)
  | .table _ => .error .manyChoices
  | _ => .error .noChoice

/-- Further elements of a record that is given as a list do not count. -/
instance instDocumentToml : Document Toml where
  view := viewToml
  choice := choiceOfToml
  surplus _ _ := .ok ()

/-- What is wrong with a TOML text. -/
inductive TomlComplaint where
  | malformed
  | unfit (cause : Mismatch)
deriving DecidableEq

/-- The words for a mismatch in a TOML text. -/
def Mismatch.tomlMessage (m : Mismatch) : String := m.message Toml.floatStyle

/-- What is said of a TOML text by one who does not look for the place in it. -/
def TomlComplaint.words : TomlComplaint → String
  | malformed => "TOML parse error"
  | unfit m => m.tomlMessage

/-- The value of a TOML text. -/
def fromToml (α : Type) [Shaped α] (text : String) : Except TomlComplaint α :=
  match Toml.parse text.toList with
  | none => .error .malformed
  | some ms => (ofDocument α (Toml.table ms)).mapError .unfit

/-! ### Writing -/

/-- A word of so many bits that is no whole number of TOML. -/
structure TooLarge where
  width : Nat
deriving DecidableEq

/-- The words for a word that is too large. -/
def TooLarge.message (e : TooLarge) : String :=
  "out-of-range value for u" ++ toString e.width ++ " type"

/-- The members of tables, if all values are tables. -/
def tablesOf? : List Toml → Option (List (List (String × Toml)))
  | [] => some []
  | .table ms :: r => (tablesOf? r).map (ms :: ·)
  | _ :: _ => none

/-- An array, whose elements get headers if all of them are tables. -/
def tomlArray (items : List Toml) : Toml :=
  match items with
  | [] => .list []
  | items =>
    match tablesOf? items with
    | some elements => .tables elements
    | none => .list items

/-- A whole number, if it has at most 63 bits. -/
def wordToToml (width n : Nat) : Except TooLarge Toml :=
  if n < 0x8000000000000000 then .ok (.integer n) else .error ⟨width⟩

/-- Writes all elements of a list. -/
def writeAll {α β ε : Type} (f : α → Except ε β) : List α → Except ε (List β)
  | [] => .ok []
  | a :: r =>
    match f a with
    | .error e => .error e
    | .ok b => (writeAll f r).map (b :: ·)

mutual

/-- A value as TOML. -/
def Shape.toToml : (s : Shape) → s.Carrier → Except TooLarge Toml
  | .text, v => .ok (.text v)
  | .flag, v => .ok (.flag v)
  | .word width, v => wordToToml width v.val
  | .choice first others, v => .ok (.text (choiceName first others v))
  | .list item, v => (writeAll item.toToml v).map tomlArray
  | .dict item, v =>
    (writeAll (fun e : String × _ => (item.toToml e.2).map fun t => (e.1, t)) v.entries).map .table
  | .record _ fields, v => (fields.toTomlMembers v).map .table

/-- The members of a record as TOML. -/
def Layout.toTomlMembers : (fields : Layout) → fields.Carrier → Except TooLarge (List (String × Toml))
  | .nil, _ => .ok []
  | .cons key p s rest, (v, more) =>
    match p.written? s v with
    | none => rest.toTomlMembers more
    | some w =>
      match s.toToml w with
      | .error e => .error e
      | .ok t => (rest.toTomlMembers more).map ((key, t) :: ·)

end

/-- The text of a TOML value, which is a table. -/
def tomlText : Toml → String
  | .table ms => String.ofList (Toml.render true (Toml.lines ms))
  | v => String.ofList (Toml.write v)

/-- The TOML text of a value. -/
def toToml {α : Type} [Shaped α] (a : α) : Except TooLarge String :=
  ((Shaped.shape α).toToml (Shaped.pack a)).map tomlText

end RealmRegistry.Schema
