/-
Records as stored text.

A stored record is one line of JSON without its unset fields.  It is read through a JSON value, so
blanks, the order of the keys, unknown keys and all but the last of repeated keys make no
difference, and `null` is the record without fields:

* `decode` — the record of a text;
* `encode` — the text of a record.
-/
import RealmRegistry.Schema.Text

namespace RealmRegistry.Schema

/-- The JSON value of a text. -/
def parseJson (text : String) : Except Complaint Json :=
  match Json.parse text.toList with
  | .ok v => .ok v
  | .error e => .error (.ofFault text.toList (malformed e))

/-- The record of a JSON value; null is the record without fields. -/
def ofJson (α : Type) [Shaped α] : Json → Except Mismatch α
  | .null => .ok (standard α)
  | v => ofDocument α v

/-- The record of a stored text. -/
def decode (α : Type) [Shaped α] (text : String) : Except Complaint α :=
  match parseJson text with
  | .error c => .error c
  | .ok v => (ofJson α v).mapError fun m => ⟨.unfit m, none⟩

/-- The stored text of a record. -/
def encode {α : Type} [Shaped α] (a : α) : String :=
  (toJson a).compact

end RealmRegistry.Schema
