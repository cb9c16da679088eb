/-
Reading a shaped value from a document.

A document format shows one level of a value at a time (`View`), and `Shape.ofDocument` reads any
shape from any format:

* the members of a table are read in the order in which the document gives them, and the first
  mismatch is reported; unknown keys are passed over;
* a record may be given as the list of its fields;
* what is missing is reported after all that is there.
-/
import RealmRegistry.Schema.Shape

namespace RealmRegistry.Schema

/-- One level of a document. -/
inductive View (V : Type) where
  | null
  | flag (b : Bool)
  | integer (i : Int)
  | float (x : Double)
  | text (s : String)
  | list (items : List V)
  | table (members : List (String × V))

/-- What a message says was found. -/
def View.found {V : Type} : View V → Found
  | null => .null
  | flag b => .flag b
  | integer i => .integer i
  | float x => .float x
  | text s => .text s
  | list _ => .list
  | table _ => .table

/-- A document format. -/
class Document (V : Type) where
  view : V → View V
  /-- the name that is given for a choice, and whether nothing but the name is given -/
  choice : V → Except Mismatch (String × Except Mismatch Unit)
  /-- what to say of a record with so many fields that is given as a list of that length -/
  surplus : (fields length : Nat) → Except Mismatch Unit

variable {V : Type} [Document V]

/-- The complaint about a value of the wrong kind. -/
def wrongKind {α : Type} (v : V) (expected : String) : Except Mismatch α :=
  .error (.wrongKind (Document.view v).found expected)

/-- Reads all elements of a list. -/
def readAll {α : Type} (item : V → Except Mismatch α) : List V → Except Mismatch (List α)
  | [] => .ok []
  | v :: r =>
    match item v with
    | .error e => .error e
    | .ok a => (readAll item r).map (a :: ·)

/-- Reads all members of a table into a dictionary. -/
def readEntries {α : Type} (item : V → Except Mismatch α) (d : Dict α) :
    List (String × V) → Except Mismatch (Dict α)
  | [] => .ok d
  | (k, v) :: r =>
    match item v with
    | .error e => .error e
    | .ok a => readEntries item (d.insert k a) r

/-- Adds the members of a table to a draft one after the other. -/
def readMembers {D : Type} (put : String → V → D → Except Mismatch D) (draft : D) :
    List (String × V) → Except Mismatch D
  | [] => .ok draft
  | (k, v) :: r =>
    match put k v draft with
    | .error e => .error e
    | .ok next => readMembers put next r

/-- Reads a field, which may be null if it may be unset. -/
def Presence.ofDocument (p : Presence) {α : Type} (item : V → Except Mismatch α) (v : V) :
    Except Mismatch (p.Slot α) :=
  match p with
  | .required => item v
  | .defaulted _ _ => item v
  | .optional => optional v
  | .retired => optional v
where
  optional (v : V) : Except Mismatch (Option α) :=
    match Document.view v with
    | .null => .ok none
    | _ => (item v).map some

mutual

/-- Reads a value of a shape. -/
def Shape.ofDocument : (s : Shape) → V → Except Mismatch s.Carrier
  | .text, v =>
    match Document.view v with
    | .text t => .ok t
    | _ => wrongKind v Shape.text.expected
  | .flag, v =>
    match Document.view v with
    | .flag b => .ok b
    | _ => wrongKind v Shape.flag.expected
  | .word width, v =>
    match Document.view v with
    | .integer i => readWord width i
    | _ => wrongKind v (Shape.word width).expected
  | .choice first others, v =>
    match Document.choice v with
    | .error e => .error e
    | .ok (name, bare) =>
      match readChoice first others name with
      | .error e => .error e
      | .ok i => bare.map fun _ => i
  | .list item, v =>
    match Document.view v with
    | .list vs => readAll item.ofDocument vs
    | _ => wrongKind v (Shape.list item).expected
  | .dict item, v =>
    match Document.view v with
    | .table ms => readEntries item.ofDocument Dict.empty ms
    | _ => wrongKind v (Shape.dict item).expected
  | .record title fields, v =>
    match Document.view v with
    | .table ms =>
      match readMembers fields.put fields.blank ms with
      | .error e => .error e
      | .ok draft => fields.finish draft
    | .list vs =>
      match fields.ofItems (expectedLength title fields) 0 vs with
      | .error e => .error e
      | .ok r => (Document.surplus V fields.length vs.length).map fun _ => r
    | _ => wrongKind v (Shape.record title fields).expected

/-- Adds the member of a table to a draft, unless no field has its key. -/
def Layout.put : (fields : Layout) → String → V → fields.Draft → Except Mismatch fields.Draft
  | .nil, _, _, draft => .ok draft
  | .cons key p s rest, k, v, (slot, more) =>
    if k = key then
      if slot.isSome then .error (.duplicate key)
      else (p.ofDocument s.ofDocument v).map fun a => (some a, more)
    else (rest.put k v more).map fun next => (slot, next)

/-- Reads the fields of a record from a list, in their order. -/
def Layout.ofItems (expected : String) :
    (fields : Layout) → (index : Nat) → List V → Except Mismatch fields.Carrier
  | .nil, _, _ => .ok ()
  | .cons _ p s rest, index, [] =>
    match p.unreached? s with
    | none => .error (.wrongLength index expected)
    | some a => (rest.ofItems expected (index + 1) []).map fun next => (a, next)
  | .cons _ p s rest, index, v :: vs =>
    match p.ofDocument s.ofDocument v with
    | .error e => .error e
    | .ok a => (rest.ofItems expected (index + 1) vs).map fun next => (a, next)

end

/-- Reads a value of a shaped type. -/
def ofDocument (α : Type) [Shaped α] (v : V) : Except Mismatch α :=
  ((Shaped.shape α).ofDocument v).map Shaped.unpack

end RealmRegistry.Schema
