/-
Types with a name for each of finitely many values.

* `Choice.ofName?` — the value of a name;
* `instShapedChoice` — such a type has the shape of a choice among its names.
-/
import RealmRegistry.Schema.Shape

namespace RealmRegistry.Schema

/-- A type whose values are listed, each with its name. -/
class Choice (α : Type) where
  first : α
  others : List α
  name : α → String
  index : α → Fin (others.length + 1)
  get_index : ∀ a, (first :: others).get (index a) = a
  index_get : ∀ i : Fin (others.length + 1), index ((first :: others).get i) = i

namespace Choice

variable {α : Type} [Choice α]

/-- All values, in their order. -/
def all (α : Type) [Choice α] : List α := first :: others

/-- The value of a name. -/
def ofName? (α : Type) [Choice α] (text : String) : Option α :=
  (all α).find? fun a => name a == text

/-- What is said of a text that is no name. -/
def noSuchName : String := "Matching variant not found"

theorem name_ofName? {text : String} {a : α} (h : ofName? α text = some a) : name a = text :=
  beq_iff_eq.1 (List.find?_some (p := fun a => name a == text) h)

end Choice

/-- The choice at a place among the names. -/
def Choice.atName {α : Type} [Choice α] (i : Fin ((others.map (name (α := α))).length + 1)) : α :=
  (first :: others).get (i.cast (congrArg Nat.succ (List.length_map name)))

/-- The shape of a choice among the names of a type. -/
instance instShapedChoice {α : Type} [Choice α] : Shaped α where
  shape := .choice (Choice.name (Choice.first : α)) ((Choice.others : List α).map Choice.name)
  pack a := (Choice.index a).cast (congrArg Nat.succ (List.length_map Choice.name).symm)
  unpack := Choice.atName
  unpack_pack a := Choice.get_index a
  pack_unpack i := by
    rw [Choice.atName, Choice.index_get]
    rfl

end RealmRegistry.Schema
