/-
Texts that are not objects.

A stored record is meant to be an object, and null is the record without fields.  Other texts are
complained about, with one exception: a list is read as a record if it has one element for each
field, in the order of the fields, and each of them would do as the member of an object.

* `decode_list`, `decode_scalar` — what is decoded of a list, and of what has no elements;
* `RejectsNonObject` — what should come of a text that is not an object;
* `non_objects_rejected` — for which texts it does, and what comes of the others;
* `list_not_rejected` — a list that is read as a record.
-/
import RealmRegistry.Proofs.Schema.Positional
import RealmRegistry.Proofs.Schema.Stored
import RealmRegistry.Registry.Basic

namespace RealmRegistry

open Schema Store

section Decoding

variable {α : Type} [Shaped α] {title : String} {fields : Layout} {text : String}

/-- What is neither null nor a list nor an object is not the value of a record. -/
theorem decode_scalar (hshape : Shaped.shape α = .record title fields) {v : Json}
    (htext : parseJson text = .ok v) (hnull : v ≠ .null) (hlist : ∀ vs, v ≠ .list vs)
    (hobject : ∀ ms, v ≠ .object ms) : ∃ c, decode α text = .error c := by
  have hread : ∃ m, (Shaped.shape α).ofDocument v = .error m := by
    rw [hshape]
    cases v with
    | null => exact absurd rfl hnull
    | list vs => exact absurd rfl (hlist vs)
    | object ms => exact absurd rfl (hobject ms)
    | _ => exact ⟨_, rfl⟩
  obtain ⟨m, hm⟩ := hread
  refine ⟨⟨.unfit m, none⟩, ?_⟩
  rw [decode_of_ne_null htext hnull, ofDocument, hm]
  rfl

/-- A list is decoded to the record that takes its elements. -/
theorem decode_list (hshape : Shaped.shape α = .record title fields)
    (hunset : fields.mayBeUnset = true) {vs : List Json} (htext : parseJson text = .ok (.list vs))
    {a : α} : decode α text = .ok a ↔ (Shaped.shape α).Takes vs (Shaped.pack a) := by
  have htakes {s : Shape} (hs : s = .record title fields) {c : s.Carrier} :
      s.ofDocument (Json.list vs) = .ok c ↔ s.Takes vs c := by
    subst hs
    exact Shape.ofDocument_list hunset
  rw [decode_of_ne_null htext nofun, mapError_eq_ok, ofDocument, map_eq_ok, ← htakes hshape]
  constructor
  · rintro ⟨c, hread, rfl⟩
    rwa [Shaped.pack_unpack]
  · intro hread
    exact ⟨_, hread, Shaped.unpack_pack a⟩

end Decoding

theorem exists_malformed_iff {α : Type} {x : Except Complaint α} :
    (∃ c, ofText x = .error (.malformed c)) ↔ ¬ ∃ a, x = .ok a := by
  cases x with
  | error c => exact ⟨fun _ => nofun, fun _ => ⟨c, rfl⟩⟩
  | ok a => exact ⟨nofun, fun h => absurd ⟨a, rfl⟩ h⟩

/-- A text is rejected unless it is an object or null. -/
structure RejectsNonObject {α : Type} (text : String) (result : Except Fault α) (empty : α) :
    Prop where
  /-- It is malformed if it is no JSON text, -/
  invalid : ∀ e, Json.parse text.toList = .error e → ∃ c, result = .error (.malformed c)
  /-- and the record without fields if it is null; -/
  null : parseJson text = .ok .null → result = .ok empty
  /-- what is neither null nor an object is malformed. -/
  others : ∀ v, parseJson text = .ok v → v ≠ .null → (∀ ms, v ≠ .object ms) →
    ∃ c, result = .error (.malformed c)

/-- A text is a list of which the fields of a record take the elements in their places. -/
def IsListOf {α : Type} [Shaped α] (text : String) (a : α) : Prop :=
  ∃ vs, parseJson text = .ok (.list vs) ∧ (Shaped.shape α).Takes vs (Shaped.pack a)

/-- What is read of a text that is not an object, if a record is decoded and then finished. -/
structure ReadsNonObject {α : Type} [Shaped α] (text : String) (result : Except Fault α)
    (finish : α → α) (empty : α) (count : Nat) : Prop where
  /-- It is rejected unless it is the list of the fields of a record; -/
  rejects_iff : RejectsNonObject text result empty ↔ ¬ ∃ a : α, IsListOf text a
  /-- such a list is read as this record, -/
  taken : ∀ a, IsListOf text a → result = .ok (finish a)
  /-- and has one element for each field. -/
  length : ∀ (a : α) vs, IsListOf text a → parseJson text = .ok (.list vs) → vs.length = count

section Records

variable {α : Type} [Shaped α] {title : String} {fields : Layout} {text : String} {finish : α → α}

theorem rejectsNonObject_iff (hshape : Shaped.shape α = .record title fields)
    (hunset : fields.mayBeUnset = true) :
    RejectsNonObject text (ofText ((decode α text).map finish)) (finish (standard α)) ↔
      ¬ ∃ a : α, IsListOf text a := by
  constructor
  -- A list with one fitting element for each field is the only other value that is read.
  · rintro h ⟨a, vs, htext, ha⟩
    have hmalformed := h.others _ htext Json.noConfusion fun _ => Json.noConfusion
    refine exists_malformed_iff.1 hmalformed ⟨finish a, ?_⟩
    rw [(decode_list hshape hunset htext).2 ha]
    rfl
  · intro hlist
    constructor
    · intro e hparse
      rw [exists_malformed_iff, exists_map_eq_ok, decode, parseJson, hparse]
      rintro ⟨a, ⟨⟩⟩
    · intro htext
      rw [decode, htext]
      rfl
    · intro v htext hnull hobject
      rw [exists_malformed_iff, exists_map_eq_ok]
      rintro ⟨a, ha⟩
      by_cases hv : ∃ vs, v = .list vs
      · obtain ⟨vs, rfl⟩ := hv
        exact hlist ⟨a, vs, htext, (decode_list hshape hunset htext).1 ha⟩
      · obtain ⟨c, hc⟩ := decode_scalar hshape htext hnull (fun vs h => hv ⟨vs, h⟩) hobject
        cases hc.symm.trans ha

theorem readsNonObject (hshape : Shaped.shape α = .record title fields)
    (hunset : fields.mayBeUnset = true) :
    ReadsNonObject text (ofText ((decode α text).map finish)) finish (finish (standard α))
      fields.length where
  rejects_iff := rejectsNonObject_iff hshape hunset
  taken := by
    rintro a ⟨vs, htext, ha⟩
    rw [(decode_list hshape hunset htext).2 ha]
    rfl
  length := by
    rintro a vs ⟨vs', htext, ha⟩ htext'
    have hlength {s : Shape} (hs : s = .record title fields) {c : s.Carrier}
        (h : s.Takes vs' c) : vs'.length = fields.length := by
      subst hs
      exact Layout.length_of_takes h
    cases htext.symm.trans htext'
    exact hlength hshape ha

end Records

/-- Texts that are not objects are rejected, but for null and for lists of fields. -/
theorem non_objects_rejected (text : String) :
    ReadsNonObject text (ofText (RealmConfiguration.ofStored text)) RealmConfiguration.normalize
      ⟨none, none, none, none, none, none, none, none, none, none, none, none, none, none, none⟩
      15 ∧
    ReadsNonObject text (ofText (decode AdminConfiguration text)) id
      ⟨none, none, none, none, none, none, none, none, none, none, none, none⟩ 12 ∧
    ReadsNonObject text (ofText (decode ContextKeyConfiguration text)) id
      ⟨none, none, none, none, none, none⟩ 6 := by
  have hid {α : Type} (x : Except Complaint α) : x = x.map id := by cases x <;> rfl
  refine ⟨?_, ?_, ?_⟩
  · have hshape : Shaped.shape RealmConfiguration =
        .record "RealmConfiguration" RealmConfiguration.layout := rfl
    exact readsNonObject hshape (by decide)
  · have hshape : Shaped.shape AdminConfiguration =
        .record "RealmAdminConfiguration" AdminConfiguration.layout := rfl
    rw [hid (decode AdminConfiguration text)]
    exact readsNonObject hshape (by decide)
  · have hshape : Shaped.shape ContextKeyConfiguration =
        .record "ContextKeyConfiguration" ContextKeyConfiguration.layout := rfl
    rw [hid (decode ContextKeyConfiguration text)]
    exact readsNonObject hshape (by decide)

/-- Whether a text is read as a list. -/
def isList (text : String) : Bool :=
  match parseJson text with
  | .ok (.list _) => true
  | _ => false

/-- A list of six elements is not rejected, though it is no object: it is read as the settings of a
context key. -/
theorem list_not_rejected :
    let text := "[\"u\", null, null, null, true, null]"
    isList text = true ∧
      ofText (decode ContextKeyConfiguration text) =
        .ok ⟨some "u", none, none, none, some true, none⟩ ∧
      ¬ RejectsNonObject text (ofText (decode ContextKeyConfiguration text))
        ⟨none, none, none, none, none, none⟩ := by
  intro text
  have hlist : isList text = true := by decide +kernel
  have hread : ofText (decode ContextKeyConfiguration text) =
      .ok ⟨some "u", none, none, none, some true, none⟩ := by decide +kernel
  refine ⟨hlist, hread, fun h => ?_⟩
  rw [isList] at hlist
  split at hlist
  next vs htext =>
    obtain ⟨c, hc⟩ := h.others _ htext Json.noConfusion fun _ => Json.noConfusion
    cases hread.symm.trans hc
  · cases hlist

end RealmRegistry
