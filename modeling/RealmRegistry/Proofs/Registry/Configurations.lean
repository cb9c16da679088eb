/-
The three ways to read the configurations of a realm agree.

Each of them asks for the row of the realm in its own way: for one column, for the other, or for
both.  What is read of one column is told by this column alone.  Reading both is reading one and
then the other, except that a column which is missing comes before any complaint about a text.

* `TellsColumns` — a database in which a query for a realm is told by the columns of the realm;
* `readColumn` — what is read of one column;
* `ReadsAgree` — how the three ways go together;
* `readsAgree` — they do, whatever is in the columns;
* `Memory.ReadsRealms`, `Tables.HasRealms` — databases of either kind.
-/
import RealmRegistry.Proofs.Registry.Interchange

namespace RealmRegistry

open Schema Store

/-! ### Columns -/

/-- What is read of a column, in which there may be no text. -/
def readColumn {α : Type} (read : String → Except Complaint α) (realm : String) :
    Option String → Except Fault α
  | none => .error (.notFound realm)
  | some text => ofText (read text)

theorem ofText_ne_notFound {α : Type} {realm : String} (x : Except Complaint α) :
    ofText x ≠ .error (.notFound realm) := by
  cases x <;> exact nofun

/-- Nothing is found exactly if there is no text. -/
theorem readColumn_eq_notFound {α : Type} {read : String → Except Complaint α} {realm : String}
    {column : Option String} :
    readColumn read realm column = .error (.notFound realm) ↔ column = none := by
  cases column with
  | none => exact ⟨fun _ => rfl, fun _ => rfl⟩
  | some text => exact ⟨fun h => absurd h (ofText_ne_notFound _), nofun⟩

/-! ### Databases -/

section Databases

variable {σ τ : Type} [Backend σ τ]

/-- Queries for a realm do not fail, and what they give is told by the columns of the realm, if it
has a row. -/
def TellsColumns (db : σ) (columns : String → Option (Option String × Option String)) : Prop :=
  ∀ statement : Statement, statement.isForRealm = true → ∀ realm,
    Backend.queryRow db statement [realm] =
      match columns realm with
      | none => .ok none
      | some (configuration, admin) => Memory.realmRow statement configuration admin

/-- How the three ways to read the configurations of a realm go together. -/
structure ReadsAgree (r : Registry σ) (realm : String)
    (columns : Option (Option String × Option String)) : Prop where
  /-- Each configuration is what is read of its own column, -/
  configuration : r.configuration realm =
    readColumn RealmConfiguration.ofStored realm (columns.bind Prod.fst)
  adminConfiguration : r.adminConfiguration realm =
    readColumn (decode AdminConfiguration) realm (columns.bind Prod.snd)
  /-- and not found exactly if this column is not there, or the row. -/
  configuration_missing :
    r.configuration realm = .error (.notFound realm) ↔ columns.bind Prod.fst = none
  admin_missing :
    r.adminConfiguration realm = .error (.notFound realm) ↔ columns.bind Prod.snd = none
  /-- Both are read together if each of them is read; -/
  both : ∀ c a, r.configurations realm = .ok (c, a) ↔
    r.configuration realm = .ok c ∧ r.adminConfiguration realm = .ok a
  /-- they are not found if one of them is not, whatever is wrong with the other; -/
  missing : r.configurations realm = .error (.notFound realm) ↔
    r.configuration realm = .error (.notFound realm) ∨
      r.adminConfiguration realm = .error (.notFound realm)
  /-- otherwise the fault is that of the first one, -/
  first : ∀ e, r.configurations realm ≠ .error (.notFound realm) →
    r.configuration realm = .error e → r.configurations realm = .error e
  /-- or else that of the second one. -/
  second : ∀ c e, r.configurations realm ≠ .error (.notFound realm) →
    r.configuration realm = .ok c → r.adminConfiguration realm = .error e →
    r.configurations realm = .error e

variable {db : σ} {columns : String → Option (Option String × Option String)}

theorem configuration_eq (h : TellsColumns db columns) (scope : Access.Scope) (realm : String) :
    (Registry.mk db scope).configuration realm =
      readColumn RealmConfiguration.ofStored realm ((columns realm).bind Prod.fst) := by
  rw [Registry.configuration, Registry.realmColumn, Registry.realmRow, h _ rfl realm]
  rcases columns realm with _ | ⟨_ | configuration, admin⟩ <;> rfl

theorem adminConfiguration_eq (h : TellsColumns db columns) (scope : Access.Scope)
    (realm : String) :
    (Registry.mk db scope).adminConfiguration realm =
      readColumn (decode AdminConfiguration) realm ((columns realm).bind Prod.snd) := by
  rw [Registry.adminConfiguration, Registry.realmColumn, Registry.realmRow, h _ rfl realm]
  rcases columns realm with _ | ⟨configuration, _ | admin⟩ <;> rfl

/-- Both configurations are read one after the other, unless one of them is not found. -/
theorem configurations_cases (h : TellsColumns db columns) (scope : Access.Scope) (realm : String) :
    let r := Registry.mk db scope
    let missing := r.configuration realm = .error (.notFound realm) ∨
      r.adminConfiguration realm = .error (.notFound realm)
    (missing ∧ r.configurations realm = .error (.notFound realm)) ∨
    (¬ missing ∧ r.configurations realm = r.configuration realm >>= fun c =>
      r.adminConfiguration realm >>= fun a => .ok (c, a)) := by
  intro r missing
  show (_ ∨ _) ∧ _ ∨ ¬ (_ ∨ _) ∧ _
  rw [configuration_eq h scope realm, adminConfiguration_eq h scope realm, readColumn_eq_notFound,
    readColumn_eq_notFound, Registry.configurations, Registry.realmRow, h _ rfl realm]
  rcases columns realm with _ | ⟨_ | configuration, _ | admin⟩
  · exact .inl ⟨.inl rfl, rfl⟩
  · exact .inl ⟨.inl rfl, rfl⟩
  · exact .inl ⟨.inl rfl, rfl⟩
  · exact .inl ⟨.inr rfl, rfl⟩
  · exact .inr ⟨not_or.2 ⟨Option.some_ne_none _, Option.some_ne_none _⟩, rfl⟩

/-- The three ways agree, whatever is in the columns of the realm. -/
theorem readsAgree (h : TellsColumns db columns) (scope : Access.Scope) (realm : String) :
    ReadsAgree (Registry.mk db scope) realm (columns realm) where
  configuration := configuration_eq h scope realm
  adminConfiguration := adminConfiguration_eq h scope realm
  configuration_missing := by rw [configuration_eq h scope realm, readColumn_eq_notFound]
  admin_missing := by rw [adminConfiguration_eq h scope realm, readColumn_eq_notFound]
  both := by
    intro c a
    rcases configurations_cases h scope realm with ⟨hmissing, heq⟩ | ⟨-, heq⟩
    · rw [heq]
      refine ⟨nofun, fun ⟨hc, ha⟩ => ?_⟩
      rw [hc, ha] at hmissing
      rcases hmissing with hno | hno <;> cases hno
    · rw [heq]
      simp only [bind_eq_ok, Except.ok.injEq, Prod.mk.injEq]
      constructor
      · rintro ⟨_, hc, _, ha, rfl, rfl⟩
        exact ⟨hc, ha⟩
      · rintro ⟨hc, ha⟩
        exact ⟨c, hc, a, ha, rfl, rfl⟩
  missing := by
    rcases configurations_cases h scope realm with ⟨hmissing, heq⟩ | ⟨hthere, heq⟩
    · exact ⟨fun _ => hmissing, fun _ => heq⟩
    · refine ⟨fun herror => ?_, fun hmissing => absurd hmissing hthere⟩
      -- what went wrong with both went wrong with one of them
      rw [heq] at herror
      rcases bind_eq_error.1 herror with hc | ⟨c, -, herror⟩
      · exact .inl hc
      · rcases bind_eq_error.1 herror with ha | ⟨a, -, ⟨⟩⟩
        exact .inr ha
  first := by
    intro e hthere hc
    rcases configurations_cases h scope realm with ⟨-, heq⟩ | ⟨-, heq⟩
    · exact absurd heq hthere
    · rw [heq, hc]
      rfl
  second := by
    intro c e hthere hc ha
    rcases configurations_cases h scope realm with ⟨-, heq⟩ | ⟨-, heq⟩
    · exact absurd heq hthere
    · rw [heq, hc, ha]
      rfl

end Databases

/-! ### Both kinds of databases -/

/-- Queries for a realm are not made to fail. -/
def Store.Memory.ReadsRealms (m : Memory) : Prop :=
  ∀ statement : Statement, statement.isForRealm = true → m.failure statement = none

theorem Store.Memory.ReadsRealms.tellsColumns {m : Memory} (h : m.ReadsRealms) :
    TellsColumns m m.realms.get? := by
  intro statement hstatement realm
  show m.queryRow statement [realm] = _
  rw [Memory.queryRow, h statement hstatement]
  rfl

/-- The table of realms has one row for each of these realms, and text or nothing in its columns. -/
structure Store.Tables.HasRealms (t : Tables)
    (realms : List (String × Option String × Option String)) : Prop where
  rows : t.rows .realms = some (realms.map realmRecord)
  once : (realms.map Prod.fst).Nodup

theorem Store.Tables.HasRealms.tellsColumns {d : Relational}
    {realms : List (String × Option String × Option String)} (h : d.tables.HasRealms realms)
    (hcan : d.CanTake) : TellsColumns d fun realm => realms.lookup realm :=
  fun _ => Relational.queryRow_realm hcan h.rows h.once

end RealmRegistry
