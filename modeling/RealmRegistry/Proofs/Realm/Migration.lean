/-
The field that account editing took the place of.

A stored configuration may still have the superseded field, in a text with its keys in any order
and repeated.  Reading such a text is told field by field from the members of the text
(`holds_of_decode`), and moving the old field to the new one comes after that:

* `normalize_normalize` — there is nothing to be moved a second time;
* `flags_of_decode` — what both fields were set to;
* `ofStored_encode` — a configuration that was read comes back from the text that is written of it;
* `superseded_field_moves` — all that is said of the superseded field.
-/
import RealmRegistry.Proofs.Json.Members
import RealmRegistry.Proofs.Realm.Records
import RealmRegistry.Proofs.Schema.Fields

namespace RealmRegistry

open Schema

/-- The last entry for a key is the one that is found among the entries of the dictionary. -/
theorem Dict.lookup_reverse_entries {α : Type} (l : List (String × α)) (k : String) :
    (ofList l).entries.reverse.lookup k = l.reverse.lookup k := by
  rw [← get?_ofList, ← get?_ofList, ofList_entries]

/-- What a flag is set to by a member of a text: null does not set it, and neither does no member;
other values are no flags. -/
def flagOf? : Option Json → Option (Option Bool)
  | none => some none
  | some .null => some none
  | some (.flag b) => some (some b)
  | some _ => none

theorem flagOf?_of_optional {found : Option Json} {v : Option Bool}
    (h : Presence.optional.Has .flag found v) : flagOf? found = some v := by
  cases found with
  | none => exact h
  | some u =>
    cases u with
    | null => exact congrArg some (Except.ok.inj h)
    | flag b => exact congrArg some (Except.ok.inj h)
    | _ => cases h

theorem flagOf?_of_retired {found : Option Json} {v : Option Bool}
    (h : Presence.retired.Has .flag found v) : flagOf? found = some v :=
  flagOf?_of_optional (by cases found <;> exact h)

namespace RealmConfiguration

/-! ### What is read -/

variable {text : String} {c d : RealmConfiguration}

@[simp] theorem normalize_normalize (c : RealmConfiguration) :
    c.normalize.normalize = c.normalize :=
  normalize_withoutMailEditing c.normalize

/-- Each field has the value of the last member with its key. -/
theorem holds_of_decode {es : List (String × Json)} (htext : parseJson text = .ok (.object es))
    (h : decode RealmConfiguration text = .ok d) :
    ∃ ms, Json.members? text.toList = some ms ∧
      layout.Holds (ms.reverse.lookup ·) (Shaped.pack d) := by
  obtain ⟨ms, hmembers, rfl⟩ := Json.parse_eq_object_iff.1 (parseJson_eq_ok.1 htext)
  rw [decode_of_ne_null htext nofun] at h
  obtain ⟨c, hread, rfl⟩ := map_eq_ok.1 (mapError_eq_ok.1 h)
  have hholds := Shape.holds_of_ofDocument sound rfl hread
  simp only [Dict.lookup_reverse_entries] at hholds
  rw [Shaped.pack_unpack]
  exact ⟨ms, hmembers, hholds⟩

/-- What both fields are set to is told by the last members with their keys. -/
theorem flags_of_decode {es : List (String × Json)} (htext : parseJson text = .ok (.object es))
    (h : decode RealmConfiguration text = .ok d) :
    ∃ ms, Json.members? text.toList = some ms ∧
      flagOf? (ms.reverse.lookup "api_self_account_editing_enabled") = some d.selfAccountEditing ∧
      flagOf? (ms.reverse.lookup "api_self_mail_editing_enabled") = some d.selfMailEditing := by
  obtain ⟨ms, hmembers, -, -, -, -, hmail, haccount, -⟩ := holds_of_decode htext h
  exact ⟨ms, hmembers, flagOf?_of_optional haccount, flagOf?_of_retired hmail⟩

/-! ### What is written -/

/-- A configuration is written without its superseded field, whatever is in it. -/
theorem members?_encode (c : RealmConfiguration) :
    ∃ ms, Json.members? (encode c).toList = some ms ∧
      "api_self_mail_editing_enabled" ∉ ms.map Prod.fst := by
  have hplain : (toJson c).Plain := Shape.plain_toJson _ _ sound
  have hdepth : (toJson c).depth ≤ Json.maxDepth :=
    Nat.le_trans (Shape.depth_toJson_le _ (Shaped.pack c)) (by decide)
  have hmembers := Json.members?_write none hplain hdepth Json.blanks_nil
  rw [List.append_nil] at hmembers
  have htext : (encode c).toList = Json.write none (toJson c) := String.toList_ofList
  refine ⟨_, htext ▸ hmembers, fun h => ?_⟩
  rw [List.map_map, List.mem_map] at h
  obtain ⟨⟨k, v⟩, hm, rfl⟩ := h
  have hkey := layout.mem_currentKeys _ hm
  exact absurd hkey (by decide +kernel)

/-- A configuration that was read comes back from the text that is written of it. -/
theorem ofStored_encode (h : ofStored text = .ok c) : ofStored (encode c) = .ok c := by
  obtain ⟨d, -, rfl⟩ := map_eq_ok.1 h
  have hread := comesBack.read d.normalize (encode d.normalize) List.mem_cons_self
  rwa [normalize_eq_self_iff.1 (normalize_normalize d)] at hread

end RealmConfiguration

/-- All that is said of the superseded field of a configuration. -/
structure SupersededFieldMoves : Prop where
  /-- what is read of an object has the new field as it was set last, or else as the old one was,
  and is what is decoded otherwise; -/
  moves : ∀ (text : String) (es : List (String × Json)) (c : RealmConfiguration),
    parseJson text = .ok (.object es) → RealmConfiguration.ofStored text = .ok c →
    ∃ ms d current superseded, Json.members? text.toList = some ms ∧
      decode RealmConfiguration text = .ok d ∧
      flagOf? (ms.reverse.lookup "api_self_account_editing_enabled") = some current ∧
      flagOf? (ms.reverse.lookup "api_self_mail_editing_enabled") = some superseded ∧
      c = { d with selfAccountEditing := current.or superseded, selfMailEditing := none }
  /-- nothing is left to be moved; -/
  idempotent : ∀ c : RealmConfiguration, c.normalize.normalize = c.normalize
  /-- the texts that are read are those that are decoded, -/
  accepts : ∀ text, (∃ c, RealmConfiguration.ofStored text = .ok c) ↔
    ∃ d, decode RealmConfiguration text = .ok d
  /-- and the others are complained about in the same way; -/
  complains : ∀ text e, RealmConfiguration.ofStored text = .error e ↔
    decode RealmConfiguration text = .error e
  /-- no configuration is written with the old field; -/
  unwritten : ∀ c : RealmConfiguration, ∃ ms, Json.members? (encode c).toList = some ms ∧
    "api_self_mail_editing_enabled" ∉ ms.map Prod.fst
  /-- and what is written of one that was read is read as the same, and written as the same text. -/
  settles : ∀ text c, RealmConfiguration.ofStored text = .ok c →
    RealmConfiguration.ofStored (encode c) = .ok c ∧
      (RealmConfiguration.ofStored (encode c)).map encode = .ok (encode c)

/-- The superseded field moves to the new one when a text is read, and never comes back. -/
theorem superseded_field_moves : SupersededFieldMoves where
  moves := by
    intro text es c htext h
    obtain ⟨d, hdecode, rfl⟩ := map_eq_ok.1 h
    obtain ⟨ms, hmembers, hcurrent, hsuperseded⟩ :=
      RealmConfiguration.flags_of_decode htext hdecode
    exact ⟨ms, d, _, _, hmembers, hdecode, hcurrent, hsuperseded, rfl⟩
  idempotent := RealmConfiguration.normalize_normalize
  accepts _ := exists_map_eq_ok
  complains _ _ := map_eq_error
  unwritten := RealmConfiguration.members?_encode
  settles := by
    intro text c h
    have hread := RealmConfiguration.ofStored_encode h
    rw [hread]
    exact ⟨rfl, rfl⟩

/-- The later null leaves the new field unset, so it takes the value that the old one was set to
last. -/
example : RealmConfiguration.ofStored ("\x7b\"api_self_account_editing_enabled\": false, " ++
    "\"api_self_mail_editing_enabled\": false, \"api_self_account_editing_enabled\": null, " ++
    "\"api_self_mail_editing_enabled\": true\x7d") =
      .ok { standard RealmConfiguration with selfAccountEditing := some true } := by
  decide +kernel

end RealmRegistry
