/-
Settings come back from the text that is written of them.

Two numbers of seconds may be larger than any whole number of TOML, and settings with such a number
cannot be written.  No text has them either, so settings that were read can be written, and the text
that is written of them is the same from then on.

* `fits_iff` — which settings can be written;
* `settings_come_back` — what becomes of settings that are written, and of a text that is read.
-/
import Mathlib.Algebra.Group.Nat.Defs
import RealmRegistry.Proofs.Schema.Toml
import RealmRegistry.Settings.Basic

namespace RealmRegistry

open Schema Access

instance instRecoverableSettings : Recoverable Settings := .of_isCurrent (by decide) (by decide)

/-! ### Settings that can be written -/

/-- A number of seconds that is a whole number of TOML. -/
def IsWritable (seconds : UInt64) : Prop := seconds.toNat < 0x8000000000000000

theorem FileStorage.fits_iff (f : FileStorage) :
    (Shaped.shape FileStorage).fits (Shaped.pack f) = true ↔ IsWritable f.busyTimeout := by
  show ((Shape.word 32).fits f.maxConnections.toFin &&
    ((Shape.word 64).fits f.busyTimeout.toFin && true)) = true ↔ _
  rw [Shape.fits_of_isNarrow (.word 32) _ (by decide), Bool.true_and, Bool.and_true]
  exact decide_eq_true_iff

theorem ServerStorage.fits_iff (s : ServerStorage) :
    (Shaped.shape ServerStorage).fits (Shaped.pack s) = true ↔ IsWritable s.maxLifetime := by
  show (true && ((Shape.word 16).fits s.port.toFin && (true && (true && (true &&
    ((Shape.word 32).fits s.poolSize.toFin &&
      ((Shape.word 64).fits s.maxLifetime.toFin && true))))))) = true ↔ _
  rw [Shape.fits_of_isNarrow (.word 16) _ (by decide),
    Shape.fits_of_isNarrow (.word 32) _ (by decide)]
  simp only [Bool.true_and, Bool.and_true]
  exact decide_eq_true_iff

theorem StorageSettings.fits_iff (s : StorageSettings) :
    (Shaped.shape StorageSettings).fits (Shaped.pack s) = true ↔
      IsWritable s.file.busyTimeout ∧ ∀ server, s.server = some server →
        IsWritable server.maxLifetime := by
  show (true && ((Shaped.shape FileStorage).fits (Shaped.pack s.file) &&
    ((s.server.map Shaped.pack).all (Shaped.shape ServerStorage).fits && true))) = true ↔ _
  rw [Bool.true_and, Bool.and_true, Bool.and_eq_true, FileStorage.fits_iff, Option.all_map,
    Option.all_eq_true]
  refine and_congr_right fun _ => forall₂_congr fun server _ => ?_
  exact ServerStorage.fits_iff server

namespace Settings

/-- Settings can be written if their numbers of seconds can. -/
theorem fits_iff (c : Settings) :
    (Shaped.shape Settings).fits (Shaped.pack c) = true ↔
      IsWritable c.storage.file.busyTimeout ∧ ∀ server, c.storage.server = some server →
        IsWritable server.maxLifetime := by
  show (true && (true && (true && ((Shaped.shape StorageSettings).fits (Shaped.pack c.storage) &&
    (true && ((Shaped.shape AuthorizationSettings).fits (Shaped.pack c.authorization) &&
      true)))))) = true ↔ _
  rw [Shape.fits_of_isNarrow (Shaped.shape AuthorizationSettings) _ (by decide)]
  simp only [Bool.true_and, Bool.and_true]
  exact StorageSettings.fits_iff c.storage

/-- Settings are read back from their text. -/
theorem fromToml_toToml {c : Settings} {text : String} (h : toToml c = .ok text) :
    fromToml Settings text = .ok c :=
  Schema.fromToml_toToml (by decide) (by decide) (by decide) h

end Settings

/-- All that is said of writing settings and of reading them. -/
structure SettingsComeBack : Prop where
  /-- settings can be written exactly if their numbers of seconds have at most 63 bits, -/
  written : ∀ c : Settings, (∃ text, toToml c = .ok text) ↔
    c.storage.file.busyTimeout.toNat ≤ 2 ^ 63 - 1 ∧
      ∀ server, c.storage.server = some server → server.maxLifetime.toNat ≤ 2 ^ 63 - 1
  /-- and then they are read back; -/
  read : ∀ (c : Settings) (text : String), toToml c = .ok text → fromToml Settings text = .ok c
  /-- what was read from any text can be written, is read back from what is written, and from
  then on the text stays as it is -/
  again : ∀ (text : String) (c : Settings), fromToml Settings text = .ok c →
    ∃ written, toToml c = .ok written ∧ fromToml Settings written = .ok c ∧
      ∀ c', fromToml Settings written = .ok c' → toToml c' = .ok written

/-- Settings come back from their text, and every text of settings from its own settings. -/
theorem settings_come_back : SettingsComeBack where
  written := by
    intro c
    have hword {n : UInt64} : n.toNat ≤ 2 ^ 63 - 1 ↔ IsWritable n := by
      rw [IsWritable]
      omega
    rw [toToml, exists_map_eq_ok, Shape.toToml_ok_iff, Settings.fits_iff]
    simp only [hword]
  read _ _ := Settings.fromToml_toToml
  again := by
    intro text c h
    obtain ⟨written, hwritten⟩ := toToml_of_fromToml (by decide) h
    have hread := Settings.fromToml_toToml hwritten
    refine ⟨written, hwritten, hread, fun c' hc' => ?_⟩
    rwa [← Except.ok.inj (hread.symm.trans hc')]

/-- A number of seconds with 64 bits. -/
example : toToml { Settings.fresh with
    storage := { standard StorageSettings with file := ⟨10, 0x8000000000000000⟩ } } =
      .error ⟨64⟩ := by
  rfl

end RealmRegistry
