/-
Values come back when they are read straight from their texts.

A text need not become a document first; each part of it can be read by what its reader expects
there.  Read in this way too, lists of context keys, authorizations, settings of a storage and whole
settings come back as they were, and nothing is set that was unset.

* `comesBack_fromText` — reading straight from a text undoes writing;
* `texts_read_directly` — for all of these values.
-/
import RealmRegistry.Proofs.Realm.Records
import RealmRegistry.Proofs.Settings.RoundTrip
import RealmRegistry.Realm.Authorization

namespace RealmRegistry

open Schema

instance instRecoverableAuthorization : Recoverable Authorization :=
  .of_isCurrent (by decide) (by decide)

instance instRecoverableStorageSettings : Recoverable StorageSettings :=
  .of_isCurrent (by decide) (by decide)

/-- Reading a value straight from any of its texts undoes writing it. -/
theorem comesBack_fromText {α : Type} [Shaped α] [Recoverable α] :
    ComesBack α (fromText α) id := by
  refine .of_read fun a text htext => ?_
  obtain ⟨indent, b, hb, rfl⟩ := exists_written_of_mem htext
  exact fromText_write a indent hb

/-- All that is said of values that are read straight from their texts. -/
structure TextsReadDirectly : Prop where
  keys : ComesBack (List ContextKey) (fromText (List ContextKey)) id
  authorization : ComesBack Authorization (fromText Authorization) id
  storage : ComesBack StorageSettings (fromText StorageSettings) id
  settings : ComesBack Settings (fromText Settings) id
  /-- a target that is unset stays so, and so does an empty one -/
  target : ∀ (a b : Authorization), ∀ text ∈ textsOf a, fromText Authorization text = .ok b →
    b.targetRealmId = a.targetRealmId ∧ b.targetGroupName = a.targetGroupName

/-- Context keys, authorizations and settings are read straight from every text that is written of
them. -/
theorem texts_read_directly : TextsReadDirectly where
  keys := comesBack_fromText
  authorization := comesBack_fromText
  storage := comesBack_fromText
  settings := comesBack_fromText
  target := by
    intro a b text htext hb
    have ha : fromText Authorization text = .ok a := comesBack_fromText.read a text htext
    cases ha.symm.trans hb
    exact ⟨rfl, rfl⟩

end RealmRegistry
