/-
Shapes of records.

A `Shape` says which values a place in a document may have, and a `Layout` lists the fields of a
record: key, presence, shape.  From a shape follow the type of its values (`Shape.Carrier`), the
value that stands for an absent one (`Shape.standard`) and, in the modules beside this one, how
the value is read from and written to each format.  So a record type gives its layout once.

* `Layout.finish` — a record from the fields that were found, absent ones filled in;
* `Shaped` — a type with a shape, and the two maps between its values and the carrier.
-/
import RealmRegistry.Dict
import RealmRegistry.Schema.Mismatch

namespace RealmRegistry.Schema

/-! ### Shapes and layouts -/

/-- The value of a field that is left out. -/
inductive Standard where
  | text (s : String)
  | flag (b : Bool)
  | word (n : Nat)
  /-- the first choice, the empty list, the record of standard values -/
  | bare
deriving DecidableEq

/-- Whether a field may be left out. -/
inductive Presence where
  /-- it has to be there -/
  | required
  /-- it may be unset, and an unset one is not written -/
  | optional
  /-- it may be unset, and it is never written -/
  | retired
  /-- a value stands for an absent one; an empty list is written only if `whenEmpty` -/
  | defaulted (value : Standard) (whenEmpty : Bool)
deriving DecidableEq

mutual

/-- Which values a place in a document may have. -/
inductive Shape where
  | text
  | flag
  /-- a whole number of so many bits -/
  | word (width : Nat)
  /-- one of several names -/
  | choice (first : String) (others : List String)
  | list (item : Shape)
  /-- a table with keys of any name -/
  | dict (item : Shape)
  | record (title : String) (fields : Layout)

/-- The fields of a record. -/
inductive Layout where
  | nil
  | cons (key : String) (presence : Presence) (shape : Shape) (rest : Layout)

end

/-! ### Values -/

/-- The number of words of so many bits. -/
@[reducible] def wordCount (width : Nat) : Nat := Nat.pow 2 width

theorem wordCount_pos (width : Nat) : 0 < wordCount width :=
  Nat.pow_pos Nat.two_pos

/-- A word, the number of which is taken modulo the number of words. -/
def wordOf (width n : Nat) : Fin (wordCount width) :=
  ⟨n % wordCount width, Nat.mod_lt n (wordCount_pos width)⟩

/-- The type of a field with values in `α`. -/
@[reducible] def Presence.Slot (p : Presence) (α : Type) : Type :=
  match p with
  | .required => α
  | .optional => Option α
  | .retired => Option α
  | .defaulted _ _ => α

mutual

/-- The type of the values of a shape. -/
@[reducible] def Shape.Carrier : Shape → Type
  | .text => String
  | .flag => Bool
  | .word width => Fin (wordCount width)
  | .choice _ others => Fin (others.length + 1)
  | .list item => List item.Carrier
  | .dict item => Dict item.Carrier
  | .record _ fields => fields.Carrier

/-- The type of the records of a layout. -/
@[reducible] def Layout.Carrier : Layout → Type
  | .nil => Unit
  | .cons _ p s rest => p.Slot s.Carrier × rest.Carrier

end

/-- The fields of a record that were found so far. -/
@[reducible] def Layout.Draft : Layout → Type
  | .nil => Unit
  | .cons _ p s rest => Option (p.Slot s.Carrier) × rest.Draft

/-- The draft without fields. -/
def Layout.blank : (fields : Layout) → fields.Draft
  | .nil => ()
  | .cons _ _ _ rest => (none, rest.blank)

/-- The number of fields. -/
def Layout.length : Layout → Nat
  | .nil => 0
  | .cons _ _ _ rest => rest.length + 1

/-- The keys of the fields. -/
def Layout.keys : Layout → List String
  | .nil => []
  | .cons key _ _ rest => key :: rest.keys

/-! ### Standard values -/

mutual

/-- The value that a standard names; where it does not fit the shape, the empty value. -/
def Shape.standard : (s : Shape) → Standard → s.Carrier
  | .text, .text s => s
  | .text, _ => ""
  | .flag, .flag b => b
  | .flag, _ => false
  | .word width, .word n => wordOf width n
  | .word width, _ => wordOf width 0
  | .choice _ others, _ => (0 : Fin (others.length + 1))
  | .list _, _ => []
  | .dict _, _ => Dict.empty
  | .record _ fields, _ => fields.standard

/-- The record whose fields have their standard values. -/
def Layout.standard : (fields : Layout) → fields.Carrier
  | .nil => ()
  | .cons _ .required s rest => (s.standard .bare, rest.standard)
  | .cons _ .optional _ rest => (none, rest.standard)
  | .cons _ .retired _ rest => (none, rest.standard)
  | .cons _ (.defaulted v _) s rest => (s.standard v, rest.standard)

end

/-- The value of a field that a table does not have. -/
def Presence.absent? (p : Presence) (s : Shape) : Option (p.Slot s.Carrier) :=
  match p with
  | .required => none
  | .optional => some none
  | .retired => some none
  | .defaulted v _ => some (s.standard v)

/-- The value of a field that a record written as a list does not reach: only a field with a
standard value may be left out there. -/
def Presence.unreached? (p : Presence) (s : Shape) : Option (p.Slot s.Carrier) :=
  match p with
  | .defaulted v _ => some (s.standard v)
  | _ => none

/-- The record of a draft; the first field that is missing is reported. -/
def Layout.finish : (fields : Layout) → fields.Draft → Except Mismatch fields.Carrier
  | .nil, _ => .ok ()
  | .cons key p s rest, (slot, more) =>
    match slot <|> p.absent? s with
    | none => .error (.missing key)
    | some v => (rest.finish more).map fun vs => (v, vs)

/-! ### Names in messages -/

/-- The names of a choice. -/
def choiceNames (first : String) (others : List String) : List String :=
  first :: others

/-- What a message says was expected. -/
def Shape.expected : Shape → String
  | .text => "a string"
  | .flag => "a boolean"
  | .word width => "u" ++ toString width
  | .choice _ _ => "string or map"
  | .list _ => "a sequence"
  | .dict _ => "a map"
  | .record title _ => "struct " ++ title

/-- What a message says about the length of a record written as a list. -/
def expectedLength (title : String) (fields : Layout) : String :=
  let count := if fields.length = 1 then "1 element" else toString fields.length ++ " elements"
  "struct " ++ title ++ " with " ++ count

/-- The index of a name among the choices. -/
def choiceIndex? (first : String) : (others : List String) → String → Option (Fin (others.length + 1))
  | others, name =>
    if name = first then some 0
    else (others.findFinIdx? (· == name)).map Fin.succ

/-- The name of a choice. -/
def choiceName (first : String) (others : List String) (i : Fin (others.length + 1)) : String :=
  (first :: others)[i]

/-- The choice of a name, or the complaint about it. -/
def readChoice (first : String) (others : List String) (name : String) :
    Except Mismatch (Fin (others.length + 1)) :=
  match choiceIndex? first others name with
  | some i => .ok i
  | none => .error (.unknownChoice name (choiceNames first others))

/-- A whole number of so many bits, or the complaint about it. -/
def readWord (width : Nat) (i : Int) : Except Mismatch (Fin (wordCount width)) :=
  if h : 0 ≤ i ∧ i.toNat < wordCount width then .ok ⟨i.toNat, h.2⟩
  else .error (.outOfRange (.integer i) (Shape.word width).expected)

/-! ### Types with a shape -/

/-- A type whose values are the values of a shape. -/
class Shaped (α : Type) where
  shape : Shape
  pack : α → shape.Carrier
  unpack : shape.Carrier → α
  unpack_pack : ∀ a, unpack (pack a) = a
  pack_unpack : ∀ c, pack (unpack c) = c

/-- A list of shaped values. -/
instance instShapedList {α : Type} [Shaped α] : Shaped (List α) where
  shape := .list (Shaped.shape α)
  pack l := l.map Shaped.pack
  unpack l := l.map Shaped.unpack
  unpack_pack l := by simp [Function.comp_def, Shaped.unpack_pack]
  pack_unpack l := by simp [Function.comp_def, Shaped.pack_unpack]

/-- The value whose fields are all left out. -/
def standard (α : Type) [Shaped α] : α :=
  Shaped.unpack ((Shaped.shape α).standard .bare)

end RealmRegistry.Schema
