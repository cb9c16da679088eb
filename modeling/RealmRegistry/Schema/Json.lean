/-
Shaped values as JSON values.

* `Shape.toJson` — the value as JSON, the fields of a record in the order of its layout;
* `instDocumentJson` — JSON values as documents, so that `ofDocument` reads them back.
-/
import RealmRegistry.Json.Basic
import RealmRegistry.Schema.Document

namespace RealmRegistry.Schema

/-! ### Writing -/

/-- Whether a field with this value may be left out because nothing is in it. -/
def Shape.isBare : (s : Shape) → s.Carrier → Bool
  | .list _, v => v.isEmpty
  | _, _ => false

/-- What is written for a field, if it is written. -/
def Presence.written? (p : Presence) (s : Shape) (v : p.Slot s.Carrier) : Option s.Carrier :=
  match p, v with
  | .required, v => some v
  | .optional, v => v
  | .retired, _ => none
  | .defaulted _ whenEmpty, v => if !whenEmpty && s.isBare v then none else some v

mutual

/-- A value as JSON. -/
def Shape.toJson : (s : Shape) → s.Carrier → Json
  | .text, v => .text v
  | .flag, v => .flag v
  | .word _, v => .integer v.val
  | .choice first others, v => .text (choiceName first others v)
  | .list item, v => .list (v.map item.toJson)
  | .dict item, v => .object (v.entries.map fun e => (e.1, item.toJson e.2))
  | .record _ fields, v => .object (fields.toMembers v)

/-- The members of a record as JSON. -/
@[simp] def Layout.toMembers : (fields : Layout) → fields.Carrier → List (String × Json)
  | .nil, _ => []
  | .cons key p s rest, (v, more) =>
    match p.written? s v with
    | none => rest.toMembers more
    | some w => (key, s.toJson w) :: rest.toMembers more

end

/-- A value of a shaped type as JSON. -/
def toJson {α : Type} [Shaped α] (a : α) : Json :=
  (Shaped.shape α).toJson (Shaped.pack a)

/-! ### Reading -/

/-- One level of a JSON value. -/
def viewJson : Json → View Json
  | .null => .null
  | .flag b => .flag b
  | .integer i => .integer i
  | .float x => .float x
  | .text s => .text s
  | .list items => .list items
  | .object members => .table members

/-- A choice is a name, or an object with the name as its one key and null in it. -/
def choiceOfJson : Json → Except Mismatch (String × Except Mismatch Unit)
  | .text name => .ok (name, .ok ())
  | .object [(name, .null)] => .ok (name, .ok ())
  | .object [(name, v)] => .ok (name, .error (.wrongKind (viewJson v).found "unit"))
  | .object _ => .error (.outOfRange .table "map with a single key")
  | v => .error (.wrongKind (viewJson v).found "string or map")

instance instDocumentJson : Document Json where
  view := viewJson
  choice := choiceOfJson
  surplus fields length :=
    if fields < length then .error (.wrongLength length "fewer elements in array") else .ok ()

end RealmRegistry.Schema
