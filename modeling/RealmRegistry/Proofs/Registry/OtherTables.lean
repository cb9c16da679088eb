/-
A transaction of a registry changes no table but that of the context keys.

Statements change what the transaction sees of that table, and a commit makes what it sees that of
the database.  Every other table is in both what it was when the transaction began (`Leaves`).

* `Tables.rows_change` — what a statement leaves;
* `Relational.leaves_applyChanges` — and what all of them leave;
* `Relational.rows_transact` — so a transaction leaves all other tables, whatever comes of it;
* `rows_of_failed` — and a replacement that fails leaves all of them.
-/
import RealmRegistry.Proofs.Registry.Records
import RealmRegistry.Proofs.Registry.Replacement

namespace RealmRegistry

open Store KeyRow

namespace Store

theorem Tables.rows_change {t t' : Tables} {c : Change} {n : Nat}
    (h : t.change c.statement c.params = .ok (n, t')) {name : TableName}
    (hname : name ≠ .contextKeys) : t'.rows name = t.rows name := by
  have hset (l : List Record) : (t.setRows .contextKeys l).rows name = t.rows name :=
    if_neg hname
  rcases t.rowsOf_cases .contextKeys with ⟨e, hrows, -, -⟩ | ⟨l, -, hl⟩
  · cases c with
    | delete i =>
      change t.delete (.text i) = _ at h
      rw [Tables.delete, hrows] at h
      cases h
    | upsert k =>
      change (t.upsert (ofKey k)).map _ = _ at h
      rw [Tables.upsert, hrows] at h
      cases h
  · cases c with
    | delete i =>
      change t.delete (.text i) = _ at h
      rw [Tables.delete_eq hl i] at h
      split at h
      · cases h
      · cases h
        exact hset _
    | upsert k =>
      change (t.upsert (ofKey k)).map _ = _ at h
      rw [Tables.upsert_eq hl k] at h
      split at h
      · cases h
      · cases h
        exact hset _

namespace Relational

/-- A table has certain rows in a database and in what a transaction sees of it. -/
def Leaves (name : TableName) (l : Option (List Record)) (d : Relational) : Transaction → Prop
  | .active _ before => d.tables.rows name = l ∧ (before.getD d.view).tables.rows name = l
  | .finished => d.tables.rows name = l

variable {name : TableName} {l : Option (List Record)} {d : Relational} {t : Transaction}

theorem leaves_execute (hname : name ≠ .contextKeys) (h : Leaves name l d t) (c : Change) :
    Leaves name l (Backend.execute d t c.statement c.params).2.2
      (Backend.execute d t c.statement c.params).2.1 := by
  show Leaves name l (d.execute t c.statement c.params).2.2 (d.execute t c.statement c.params).2.1
  cases t with
  | finished => exact h
  | active count before =>
    have hquery : c.statement.isQuery = false := by cases c <;> rfl
    rw [execute]
    split
    · exact h
    rw [hquery, if_neg Bool.false_ne_true, changeIn]
    -- The statement works on the view the transaction holds once the database is claimed.
    rcases claim_cases d (before.getD d.view) with
      ⟨e, hclaim, -⟩ | ⟨v, d', hclaim, hv, -, htables, -⟩
    · rw [hclaim]
      exact h
    · rw [hclaim]
      have hd : d'.tables.rows name = l := by rw [htables, h.1]
      have hseen : v.tables.rows name = l := by rw [hv, h.2]
      cases hchange : v.tables.change c.statement c.params with
      | error e =>
        simp only [hchange]
        exact ⟨hd, hseen⟩
      | ok result =>
        simp only [hchange]
        exact ⟨hd, (Tables.rows_change hchange hname).trans hseen⟩

theorem leaves_commit (h : Leaves name l d t) :
    Leaves name l (Backend.commit d t).2.2 (Backend.commit d t).2.1 := by
  show Leaves name l (d.commit t).2.2 (d.commit t).2.1
  cases t with
  | finished => exact h
  | active count before =>
    have hreleased : (d.release (.active count before)).tables.rows name = l := by
      rw [(release_eq d _).1, h.1]
    cases before with
    | none => exact hreleased
    | some v =>
      rw [commit]
      split
      · exact hreleased
      split
      · exact h.2
      · exact hreleased

theorem rows_release (h : Leaves name l d t) : (Backend.release d t).tables.rows name = l := by
  show (d.release t).tables.rows name = l
  rw [(release_eq d t).1]
  cases t with
  | finished => exact h
  | active count before => exact h.1

theorem leaves_applyChanges (hname : name ≠ .contextKeys) (h : Leaves name l d t)
    (changes : List Change) :
    Leaves name l (applyChanges d t changes).2.2 (applyChanges d t changes).2.1 := by
  induction changes generalizing d t with
  | nil => exact h
  | cons c r ih =>
    have hnext := leaves_execute hname h c
    rw [applyChanges]
    rcases hstep : Backend.execute d t c.statement c.params with ⟨e | n, t', d'⟩
    · rw [hstep] at hnext
      exact hnext
    · rw [hstep] at hnext
      exact ih hnext

/-- Whatever comes of a transaction, it leaves all other tables. -/
theorem rows_transact (d : Relational) (changes : List Change) {name : TableName}
    (hname : name ≠ .contextKeys) :
    (transact d changes).2.tables.rows name = d.tables.rows name := by
  rw [transact]
  rcases begin_cases d with ⟨f, hbegin⟩ | ⟨count, d₁, hbegin, htables, -⟩
  · rw [show Backend.begin d = _ from hbegin]
  rw [show Backend.begin d = _ from hbegin]
  have hbegun : Leaves name (d.tables.rows name) d₁ (.active count none) := by
    refine ⟨?_, ?_⟩
    · rw [htables]
    · show d₁.tables.rows name = _
      rw [htables]
  have hchanged := leaves_applyChanges hname hbegun changes
  rcases hchanges : applyChanges d₁ (.active count none) changes with ⟨e | _, t₂, d₂⟩
  · rw [hchanges] at hchanged
    simp only [hchanges]
    exact rows_release hchanged
  · rw [hchanges] at hchanged
    simp only [hchanges]
    exact rows_release (leaves_commit hchanged)

end Relational

end Store

end RealmRegistry
