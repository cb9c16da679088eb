/-
Rows of a query: columns of text, any of which may be NULL.
-/
import RealmRegistry.Store.Fault

namespace RealmRegistry.Store

/-- A row of a query. -/
structure Row where
  columns : List (Option String)
deriving DecidableEq

namespace Row

/-- A row without NULL. -/
def ofTexts (texts : List String) : Row := ⟨texts.map some⟩

/-- Checks the number of columns. -/
def expectColumns (r : Row) (expected : Nat) : Except RowFault Unit :=
  if r.columns.length = expected then .ok ()
  else .error (.wrongCount expected r.columns.length)

/-- The value of a column that may be NULL. -/
def optional (r : Row) (index : Nat) (column : String) : Except RowFault (Option String) :=
  match r.columns[index]? with
  | some v => .ok v
  | none => .error (.outOfBounds column index r.columns.length)

/-- The value of a column that may not be NULL. -/
def required (r : Row) (index : Nat) (column : String) : Except RowFault String :=
  match r.optional index column with
  | .error e => .error e
  | .ok none => .error (.null column index)
  | .ok (some v) => .ok v

/-- The text in a column, if there is one. -/
def text? (r : Row) (index : Nat) : Option String := (r.columns[index]?).join

end Row

end RealmRegistry.Store
