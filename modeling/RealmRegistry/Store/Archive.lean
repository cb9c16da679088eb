/-
Tables as text, for keeping them in a file.

A table is a list of rows and a row a list of cells; a cell is null, a string, or a list of bytes.
A table that is missing has no member.  A context key that is guarded is a string, else null.

* `Tables.archive` — the text of tables;
* `Tables.ofArchive?` — the tables of a text.
-/
import RealmRegistry.Schema.Stored
import RealmRegistry.Store.Tables

namespace RealmRegistry.Store

open Schema

/-! ### Writing -/

/-- A cell as JSON. -/
def Cell.toJson : Cell → Json
  | null => .null
  | text s => .text s
  | bytes b => .list (b.map fun n => .integer n.toNat)

/-- The rows of a table as JSON. -/
def recordsToJson (rows : List Record) : Json :=
  .list (rows.map fun r => .list (r.map Cell.toJson))

/-- Strings as JSON. -/
def namesToJson (names : List String) : Json := .list (names.map .text)

/-- A string that may be missing as JSON. -/
def nameToJson : Option String → Json
  | none => .null
  | some name => .text name

/-- The member of a table, if it is there. -/
def Tables.member (t : Tables) (name : TableName) : List (String × Json) :=
  match t.rows name with
  | some rows => [(name.name, recordsToJson rows)]
  | none => []

/-- The text of tables. -/
def Tables.archive (t : Tables) : String :=
  (Json.object (t.member .realms ++ t.member .contextKeys ++ t.member .authorizations ++
    [("locked", nameToJson t.locked), ("refused", nameToJson t.refused),
      ("pinned", namesToJson t.pinned)])).pretty

/-! ### Reading -/

/-- All results, if there is one for each element. -/
def allOf? {α β : Type} (f : α → Option β) : List α → Option (List β)
  | [] => some []
  | a :: r =>
    match f a, allOf? f r with
    | some b, some more => some (b :: more)
    | _, _ => none

/-- The elements of a list. -/
def listOf? {α : Type} (item : Json → Option α) : Json → Option (List α)
  | .list vs => allOf? item vs
  | _ => none

/-- The byte of a number. -/
def byteOf? : Json → Option UInt8
  | .integer i => if 0 ≤ i ∧ i < 256 then some (.ofNat i.toNat) else none
  | _ => none

/-- The cell of a JSON value. -/
def Cell.ofJson? : Json → Option Cell
  | .null => some .null
  | .text s => some (.text s)
  | v => (listOf? byteOf? v).map .bytes

/-- The string of a JSON value. -/
def nameOf? : Json → Option String
  | .text s => some s
  | _ => none

/-- The strings in a member, none if there is no such member. -/
def namesIn? (members : List (String × Json)) (key : String) : Option (List String) :=
  match members.lookup key with
  | none => some []
  | some v => listOf? nameOf? v

/-- The string in a member, if there is one. -/
def nameIn? (members : List (String × Json)) (key : String) : Option (Option String) :=
  match members.lookup key with
  | none => some none
  | some .null => some none
  | some v => (nameOf? v).map some

/-- The rows in the member of a table, which may be missing. -/
def rowsIn? (members : List (String × Json)) (name : TableName) :
    Option (Option (List Record)) :=
  match members.lookup name.name with
  | none => some none
  | some v => (listOf? (listOf? Cell.ofJson?) v).map some

/-- The tables of members. -/
def Tables.ofMembers? (members : List (String × Json)) : Option Tables := do
  let realms ← rowsIn? members .realms
  let contextKeys ← rowsIn? members .contextKeys
  let authorizations ← rowsIn? members .authorizations
  let rows : TableName → Option (List Record)
    | .realms => realms
    | .contextKeys => contextKeys
    | .authorizations => authorizations
  return ⟨rows, ← nameIn? members "locked", ← nameIn? members "refused",
    ← namesIn? members "pinned"⟩

/-- The tables of a text; those of an empty one are empty. -/
def Tables.ofArchive? (text : String) : Option Tables :=
  if text = "" then some .empty
  else
    match parseJson text with
    | .ok (.object members) => ofMembers? members
    | _ => none

end RealmRegistry.Store
