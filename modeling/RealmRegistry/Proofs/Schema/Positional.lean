/-
Records that are given as lists.

A record may be given as the list of its fields.  If no field has a standard value, the list has to
have as many elements as there are fields, and each field is read from the element in its place.

* `Layout.Takes` — a record of which each field is read from its element;
* `Shape.ofDocument_list` — which records are read from a list.
-/
import RealmRegistry.Proofs.Schema.Known

namespace RealmRegistry.Schema

/-- Each field is read from the element in its place, and no element is left. -/
def Layout.Takes : (fields : Layout) → List Json → fields.Carrier → Prop
  | .nil, vs, _ => vs = []
  | .cons _ _ _ _, [], _ => False
  | .cons _ p s rest, v :: vs, (a, more) => p.ofDocument s.ofDocument v = .ok a ∧ rest.Takes vs more

/-- The same for a shape that is a record. -/
def Shape.Takes : (s : Shape) → List Json → s.Carrier → Prop
  | .record _ fields, vs, c => fields.Takes vs c
  | _, _, _ => False

/-- There are as many elements as fields. -/
theorem Layout.length_of_takes : ∀ {fields : Layout} {vs : List Json} {c : fields.Carrier},
    fields.Takes vs c → vs.length = fields.length
  | .nil, _, _, h => List.length_eq_zero_iff.2 h
  | .cons _ _ _ _, [], _, h => h.elim
  | .cons _ _ _ _, _ :: _, (_, _), h => congrArg (· + 1) (length_of_takes h.2)

/-- The fields are read from the elements, of which there are no more. -/
theorem Layout.ofItems_eq_ok_iff (expected : String) : ∀ {fields : Layout} (index : Nat)
    {vs : List Json} {c : fields.Carrier}, fields.mayBeUnset = true →
    (fields.ofItems expected index vs = .ok c ∧ ¬ fields.length < vs.length ↔ fields.Takes vs c)
  | .nil, index, vs, c, _ => by
    rw [Layout.ofItems, Layout.Takes, Layout.length, Nat.not_lt, Nat.le_zero, List.length_eq_zero_iff]
    exact and_iff_right rfl
  | .cons key p s rest, index, [], c, h => by
    have hunreached : p.unreached? s = none := by
      rcases (Layout.mayBeUnset_cons.1 h).1 with rfl | rfl <;> rfl
    rw [Layout.ofItems, hunreached]
    exact ⟨fun h => (nomatch h.1), False.elim⟩
  | .cons key p s rest, index, v :: vs, (a, more), h => by
    have ih : rest.ofItems expected (index + 1) vs = .ok more ∧ ¬ rest.length < vs.length ↔
        rest.Takes vs more :=
      ofItems_eq_ok_iff expected (index + 1) (Layout.mayBeUnset_cons.1 h).2
    rw [Layout.ofItems, Layout.Takes, Layout.length, List.length_cons, Nat.add_lt_add_iff_right, ← ih]
    cases hread : p.ofDocument s.ofDocument v with
    | error e => exact ⟨fun h => (nomatch h.1), fun h => (nomatch h.1)⟩
    | ok b =>
      dsimp only
      rw [map_eq_ok]
      constructor
      · rintro ⟨⟨_, hrest, ⟨⟩⟩, hlength⟩
        exact ⟨rfl, hrest, hlength⟩
      · rintro ⟨⟨⟩, hrest, hlength⟩
        exact ⟨⟨more, hrest, rfl⟩, hlength⟩

/-- A list is read as a record if each field is read from the element in its place. -/
theorem Shape.ofDocument_list {title : String} {fields : Layout} (h : fields.mayBeUnset = true)
    {vs : List Json} {c : fields.Carrier} :
    (Shape.record title fields).ofDocument (Json.list vs) = .ok c ↔ fields.Takes vs c := by
  have hview : Document.view (Json.list vs) = .list vs := rfl
  rw [← Layout.ofItems_eq_ok_iff (expectedLength title fields) 0 h, Shape.ofDocument, hview]
  dsimp only
  cases fields.ofItems (expectedLength title fields) 0 vs with
  | error e => exact ⟨nofun, fun h => (nomatch h.1)⟩
  | ok r =>
    show Except.map _ (if fields.length < vs.length then _ else _) = _ ↔ _
    split
    next hmore => exact ⟨nofun, fun h => absurd hmore h.2⟩
    next hmore => exact ⟨fun h => ⟨h, hmore⟩, fun h => h.1⟩

end RealmRegistry.Schema
