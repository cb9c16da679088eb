/-
What decoding a record depends on.

Two objects are decoded to the same record, or complained about in the same words, if their last
members with the keys of the record have the same values, where null is as good as no member.
Everything else about the texts is passed over: blanks, the order of the keys, members with other
keys and earlier members with the same keys, and the same within the values.

* `Agree`, `AgreeWithin` — two texts that agree on some keys;
* `decode_eq_of_agreeWithin` — what is decoded is told by what is left of the members;
* `known_keys_decide` — the same for the four records that are decoded.
-/
import RealmRegistry.Proofs.Json.Members
import RealmRegistry.Proofs.Schema.Known
import RealmRegistry.Proofs.Schema.Stored
import RealmRegistry.Realm.Administration
import RealmRegistry.Realm.Configuration
import RealmRegistry.Realm.ContextKey

namespace RealmRegistry

open Schema

/-! ### Texts that agree -/

/-- What a member says: null says nothing. -/
def said : Option Json → Option Json
  | some .null => none
  | found => found

/-- Two texts are objects whose last members with these keys say the same. -/
def Agree (keys : List String) (text text' : String) : Prop :=
  ∃ ms ms', Json.members? text.toList = some ms ∧ Json.members? text'.toList = some ms' ∧
    ∀ k ∈ keys, said (ms.reverse.lookup k) = said (ms'.reverse.lookup k)

/-- The same, where values may still differ in members that the fields with these keys pass over. -/
def AgreeWithin (fields : Layout) (text text' : String) : Prop :=
  ∃ ms ms', Json.members? text.toList = some ms ∧ Json.members? text'.toList = some ms' ∧
    ∀ k ∈ fields.keys, (ms.reverse.lookup k).bind (fields.known? k) =
      (ms'.reverse.lookup k).bind (fields.known? k)

theorem bind_known?_said {fields : Layout} (hunset : fields.mayBeUnset = true) (k : String)
    (found : Option Json) : (said found).bind (fields.known? k) = found.bind (fields.known? k) := by
  cases found with
  | none => rfl
  | some v =>
    cases v with
    | null => exact (Layout.known?_null k hunset).symm
    | _ => rfl

theorem Agree.within {fields : Layout} (hunset : fields.mayBeUnset = true) {text text' : String}
    (h : Agree fields.keys text text') : AgreeWithin fields text text' := by
  obtain ⟨ms, ms', hms, hms', hsame⟩ := h
  refine ⟨ms, ms', hms, hms', fun k hk => ?_⟩
  rw [← bind_known?_said hunset, hsame k hk, bind_known?_said hunset]

/-- A text has members if and only if it is read as an object. -/
theorem exists_members?_iff {text : String} :
    (∃ ms, Json.members? text.toList = some ms) ↔ ∃ es, parseJson text = .ok (.object es) := by
  simp only [parseJson_eq_ok, Json.parse_eq_object_iff]
  constructor
  · rintro ⟨ms, hms⟩
    exact ⟨_, ms, hms, rfl⟩
  · rintro ⟨-, ms, hms, -⟩
    exact ⟨ms, hms⟩

/-! ### What is decoded -/

section Decoding

variable {α : Type} [Shaped α] {title : String} {fields : Layout}

/-- The same is decoded of two texts with the same left of their members. -/
theorem decode_eq_of_agreeWithin (hshape : Shaped.shape α = .record title fields)
    (hsound : fields.isSound = true) {text text' : String} (h : AgreeWithin fields text text') :
    decode α text = decode α text' := by
  obtain ⟨ms, ms', hms, hms', hsame⟩ := h
  have hparse := Json.parse_eq_object_iff.2 ⟨ms, hms, rfl⟩
  have hparse' := Json.parse_eq_object_iff.2 ⟨ms', hms', rfl⟩
  have hread := Shape.ofDocument_congr hshape hsound (Json.inOrder_parse hparse)
    (Json.inOrder_parse hparse') fun k hk => by
      rw [Dict.get?_ofList, Dict.get?_ofList]
      exact hsame k hk
  rw [decode_of_ne_null (parseJson_eq_ok.2 hparse) nofun,
    decode_of_ne_null (parseJson_eq_ok.2 hparse') nofun, ofDocument, ofDocument, hread]

end Decoding

/-- What a record depends on that is decoded. -/
structure DecidedByKeys (α : Type) [Shaped α] (fields : Layout) : Prop where
  /-- Objects that agree on the keys of the fields are decoded to the same record, or complained
  about in the same way, -/
  agree : ∀ text text', Agree fields.keys text text' → decode α text = decode α text'
  /-- even if they differ within the values in what fields there pass over. -/
  agreeWithin : ∀ text text', AgreeWithin fields text text' → decode α text = decode α text'

theorem decidedByKeys {α : Type} [Shaped α] {title : String} {fields : Layout}
    (hshape : Shaped.shape α = .record title fields) (hsound : fields.isSound = true)
    (hunset : fields.mayBeUnset = true) : DecidedByKeys α fields where
  agree _ _ h := decode_eq_of_agreeWithin hshape hsound (h.within hunset)
  agreeWithin _ _ h := decode_eq_of_agreeWithin hshape hsound h

/-- What the records depend on that are decoded. -/
structure KnownKeysDecide : Prop where
  configuration : DecidedByKeys RealmConfiguration RealmConfiguration.layout
  admin : DecidedByKeys AdminConfiguration AdminConfiguration.layout
  accreditation : DecidedByKeys Accreditation Accreditation.layout
  contextKey : DecidedByKeys ContextKeyConfiguration ContextKeyConfiguration.layout
  /-- All texts count that are read as objects. -/
  objects : ∀ text, (∃ ms, Json.members? text.toList = some ms) ↔
    ∃ es, parseJson text = .ok (.object es)

/-- Decoding depends on nothing but the members with known keys. -/
theorem known_keys_decide : KnownKeysDecide where
  configuration := decidedByKeys rfl (by decide) (by decide)
  admin := decidedByKeys rfl (by decide) (by decide)
  accreditation := decidedByKeys rfl (by decide) (by decide)
  contextKey := decidedByKeys rfl (by decide) (by decide)
  objects _ := exists_members?_iff

/-- An accreditation of an unfit type among unknown, repeated and unset members at two levels. -/
def scattered : Json :=
  .object [("mode", .flag true), ("note", .list [.null]), ("mode", .text "a"),
    ("accreditations",
      .list [.object [("note", .object []), ("validity", .null), ("type", .flag true)]])]

/-- The same without these members. -/
def gathered : Json :=
  .object [("accreditations", .list [.object [("type", .flag true)]]), ("mode", .text "a")]

/-- The same is wrong with both. -/
theorem known_keys_decide_scattered :
    decode AdminConfiguration scattered.compact = decode AdminConfiguration gathered.pretty ∧
      decode AdminConfiguration gathered.pretty =
        .error ⟨.unfit (.wrongKind (.flag true) "a string"), none⟩ := by
  have hmembers (indent : Option Nat) {ms : List (String × Json)} (hplain : (Json.object ms).Plain)
      (hdepth : (Json.object ms).depth ≤ Json.maxDepth) :
      Json.members? (String.ofList (Json.write indent (.object ms))).toList =
        some (ms.map fun m => (m.1, m.2.sorted)) := by
    have hwrite := Json.members?_write indent hplain hdepth Json.blanks_nil
    rwa [List.append_nil, ← String.toList_ofList (l := Json.write indent (.object ms))] at hwrite
  refine ⟨known_keys_decide.admin.agreeWithin _ _ ⟨_, _,
    hmembers none (by simp) (by decide),
    hmembers (some 0) (by simp) (by decide), ?_⟩,
    by decide +kernel⟩
  simp only [AdminConfiguration.layout, Layout.keys, List.forall_mem_cons]
  exact ⟨rfl, rfl, rfl, rfl, rfl, rfl, rfl, rfl, rfl, rfl, rfl, rfl, List.forall_mem_nil _⟩

end RealmRegistry
