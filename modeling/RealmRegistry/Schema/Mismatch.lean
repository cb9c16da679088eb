/-
What can be wrong with a document that is well formed: a value of the wrong kind, a number out of
range, a field too few or too many.

* `Mismatch.message` — the words for each, given how the document's format writes a
  floating-point number.
-/
import RealmRegistry.Decimal.Layout
import RealmRegistry.Text.Quoted

namespace RealmRegistry.Schema

open RealmRegistry.Text (quoted)

/-- What a document has at a place. -/
inductive Found where
  | null
  | flag (b : Bool)
  | integer (i : Int)
  | float (x : Double)
  | text (s : String)
  | list
  | table
deriving DecidableEq

/-- How a document fails to fit a shape. -/
inductive Mismatch where
  | wrongKind (found : Found) (expected : String)
  | outOfRange (found : Found) (expected : String)
  | wrongLength (length : Nat) (expected : String)
  | missing (key : String)
  | duplicate (key : String)
  | unknownChoice (name : String) (choices : List String)
  /-- a choice is neither a name nor a table -/
  | noChoice
  /-- a choice is a table without members -/
  | emptyChoice
  /-- a choice is a table with several members -/
  | manyChoices
  /-- the member that names a choice has something in it -/
  | loadedChoice
  /-- the member that names a choice is an array of tables -/
  | repeatedChoice
  /-- the member that names a choice is no table -/
  | scalarChoice (kind : String)
deriving DecidableEq

/-- How a message names what was found. -/
def Found.describe (floats : Decimal.Style) : Found → String
  | null => "null"
  | flag true => "boolean `true`"
  | flag false => "boolean `false`"
  | integer i => "integer `" ++ toString i ++ "`"
  | float x => "floating point `" ++ floats.write x ++ "`"
  | text s => "string " ++ quoted s
  | list => "sequence"
  | table => "map"

/-- The names between backticks that a choice could have had. -/
def describeChoices (names : List String) : String :=
  let ticked := names.map fun n => "`" ++ n ++ "`"
  match ticked with
  | [a, b] => a ++ " or " ++ b
  | [a] => a
  | all => "one of " ++ ", ".intercalate all

/-- The words for a mismatch. -/
def Mismatch.message (floats : Decimal.Style) : Mismatch → String
  | wrongKind found expected =>
    "invalid type: " ++ found.describe floats ++ ", expected " ++ expected
  | outOfRange found expected =>
    "invalid value: " ++ found.describe floats ++ ", expected " ++ expected
  | wrongLength n expected => "invalid length " ++ toString n ++ ", expected " ++ expected
  | missing key => "missing field `" ++ key ++ "`"
  | duplicate key => "duplicate field `" ++ key ++ "`"
  | unknownChoice name choices =>
    "unknown variant `" ++ name ++ "`, expected " ++ describeChoices choices
  | noChoice => "wanted string or table"
  | emptyChoice => "wanted exactly 1 element, found 0 elements"
  | manyChoices => "wanted exactly 1 element, more than 1 element"
  | loadedChoice => "expected empty table"
  | repeatedChoice => "expected empty array"
  | scalarChoice kind => "expected table, found " ++ kind

end RealmRegistry.Schema
