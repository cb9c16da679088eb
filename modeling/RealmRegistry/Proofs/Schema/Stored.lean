/-
A stored record is decoded to the record it was encoded from.

The text of a record is parsed to its JSON value with the members of each object in the order of
their keys, so the fields come in another order than they were written in.

* `Shape.shows_toJson` — what is parsed shows the value that was written;
* `decode_write` — a record comes back from its text, on one line or over several.
-/
import RealmRegistry.Proofs.Json.Sorted
import RealmRegistry.Proofs.Schema.Document
import RealmRegistry.Schema.Stored

namespace RealmRegistry

namespace Schema

open RealmRegistry.Json (sortedItems_eq_map sortedMembers_eq_map)

/-! ### Written values -/

mutual

/-- What is written of a value shows it, though its members stand in the order of their keys. -/
theorem Shape.shows_toJson : ∀ (s : Shape) (c : s.Carrier), s.isSound = true →
    s.Shows c (s.toJson c).sorted
  | .text, _, _ => rfl
  | .flag, _, _ => rfl
  | .word _, _, _ => rfl
  | .choice first others, c, _ => by
    rw [Shape.toJson, Json.sorted]
    exact ⟨by simp [Document.view, viewJson], rfl⟩
  | .list item, c, hs => by
    simp only [Shape.toJson, Json.sorted, sortedItems_eq_map, List.map_map]
    refine ⟨_, rfl, List.forall₂_map_right_iff.2 ?_⟩
    exact List.forall₂_same.2 fun a _ => Shape.shows_toJson item a hs
  | .dict item, c, hs => by
    -- the entries of a dictionary are in order already
    have hentries : (Dict.ofList (c.entries.map fun e => (e.1, (item.toJson e.2).sorted))).entries =
        c.entries.map fun e => (e.1, (item.toJson e.2).sorted) :=
      Dict.entries_ofList (List.pairwise_map.2 c.sorted)
    simp only [Shape.toJson, Json.sorted, sortedMembers_eq_map, List.map_map, Function.comp_def,
      hentries]
    refine ⟨_, c.entries, rfl, .refl _, List.forall₂_map_right_iff.2 ?_⟩
    exact List.forall₂_same.2 fun e _ => ⟨rfl, Shape.shows_toJson item e.2 hs⟩
  | .record title fields, c, hs => by
    have hkeys : ((fields.toMembers c).map fun m => (m.1, m.2.sorted)).map Prod.fst =
        (fields.toMembers c).map Prod.fst := List.map_map
    have hperm := Dict.perm_entries_ofList (hkeys ▸ Layout.nodup_keys_toMembers fields c hs)
    simp only [Shape.toJson, Json.sorted, sortedMembers_eq_map]
    refine ⟨_, rfl, hkeys ▸ hperm.map Prod.fst, fun m hm => ?_⟩
    obtain ⟨m', hm', rfl⟩ := List.mem_map.1 (hperm.mem_iff.1 hm)
    exact Layout.showsMember_toMembers fields c hs hm'

theorem Layout.showsMember_toMembers : ∀ (fields : Layout) (c : fields.Carrier),
    fields.isSound = true → ∀ {k : String} {v : Json}, (k, v) ∈ fields.toMembers c →
    fields.ShowsMember c k v.sorted
  | .nil, _, _, _, _, hm => by simp at hm
  | .cons key p s rest, (v, more), hs, k, u, hm => by
    obtain ⟨-, hshape, hrest⟩ := Layout.isSound_cons.1 hs
    rcases Layout.mem_toMembers_cons.1 hm with ⟨w, hwritten, rfl, rfl⟩ | hm
    · exact .inl ⟨w, hwritten, rfl, Shape.shows_toJson s w hshape⟩
    · exact .inr (Layout.showsMember_toMembers rest more hrest hm)

end

/-! ### Texts -/

@[simp] theorem parseJson_eq_ok {text : String} {v : Json} :
    parseJson text = .ok v ↔ Json.parse text.toList = .ok v := by
  rw [parseJson]
  cases Json.parse text.toList with
  | error e => exact ⟨nofun, nofun⟩
  | ok u => exact ⟨fun h => congrArg _ (Except.ok.inj h), fun h => congrArg _ (Except.ok.inj h)⟩

/-! ### Records -/

variable {α : Type} [Shaped α]

/-- The record of a text is that of its JSON value unless this is null, and a complaint about the
value has no place. -/
theorem decode_of_ne_null {text : String} {v : Json} (h : parseJson text = .ok v) (hv : v ≠ .null) :
    decode α text = (ofDocument α v).mapError fun m => ⟨.unfit m, none⟩ := by
  rw [decode, h]
  cases v with
  | null => exact absurd rfl hv
  | _ => rfl

/-- A record with nothing in its retired fields comes back from its JSON value. -/
theorem ofJson_toJson {a : α} (hsound : (Shaped.shape α).isSound = true)
    (ha : (Shaped.shape α).Settled (Shaped.pack a)) : ofJson α (toJson a).sorted = .ok a := by
  have hshows := Shape.shows_toJson _ (Shaped.pack a) hsound
  have hread : ofDocument α (toJson a).sorted = .ok a := by
    show ((Shaped.shape α).ofDocument _).map Shaped.unpack = _
    rw [toJson, Shape.ofDocument_of_shows _ _ hsound ha hshows]
    exact congrArg _ (Shaped.unpack_pack a)
  have hnull : (toJson a).sorted ≠ .null := fun h =>
    Shape.view_ne_null_of_shows hshows (congrArg Document.view h)
  rw [ofJson, hread]
  exact hnull

/-- Such a record comes back from its text, on one line or over several, whatever blanks are
behind it. -/
theorem decode_write_of_settled {a : α} (hsound : (Shaped.shape α).isSound = true)
    (ha : (Shaped.shape α).Settled (Shaped.pack a)) (indent : Option Nat)
    (hdepth : (Shaped.shape α).depth ≤ Json.maxDepth) {b : List Char} (hb : Json.Blanks b) :
    decode α (String.ofList (Json.write indent (toJson a) ++ b)) = .ok a := by
  have hparse : Json.parse (Json.write indent (toJson a) ++ b) = .ok (toJson a).sorted :=
    Json.parse_write indent (Shape.plain_toJson _ (Shaped.pack a) hsound)
      (Nat.le_trans (Shape.depth_toJson_le _ (Shaped.pack a)) hdepth) hb
  simp only [decode, parseJson, String.toList_ofList, hparse, ofJson_toJson hsound ha]
  rfl

variable [Recoverable α]

/-- A record comes back from its text, whatever blanks are behind it. -/
theorem decode_write (a : α) (indent : Option Nat)
    (hdepth : (Shaped.shape α).depth ≤ Json.maxDepth) {b : List Char} (hb : Json.Blanks b) :
    decode α (String.ofList (Json.write indent (toJson a) ++ b)) = .ok a :=
  decode_write_of_settled Recoverable.sound (Recoverable.settled a) indent hdepth hb

/-- A record is decoded from what it is encoded to. -/
theorem decode_encode (a : α) (hdepth : (Shaped.shape α).depth ≤ Json.maxDepth) :
    decode α (encode a) = .ok a := by
  have h := decode_write a none hdepth Json.blanks_nil
  rwa [List.append_nil] at h

end Schema

end RealmRegistry
