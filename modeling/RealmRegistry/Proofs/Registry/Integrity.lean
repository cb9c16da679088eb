/-
No request spoils the table of context keys.

A table is well formed if its identifiers are distinct and each of its rows is that of a context
key.  What is put in is a row of five texts, the last of which is decoded to the settings that were
encoded, so a well-formed table stays so whether a replacement succeeds, fails or is given up.

* `Row.complete_iff` — the complete rows are those that are read as context keys;
* `wellFormed_applied` — changes keep a table well formed;
* `integrity_of_wellFormed` — a well-formed table can be read, and each row is read for one realm;
* `run_integrity` — so can the table after any history.
-/
import RealmRegistry.Proofs.Registry.History

namespace RealmRegistry

open Store KeyRow Schema

/-! ### Complete rows -/

/-- Five columns, none of which is NULL, with settings in the last. -/
def Store.Row.Complete (r : Row) : Prop :=
  r.columns.length = 5 ∧ (∀ c ∈ r.columns, c ≠ none) ∧
    ∃ stored config, r.text? 4 = some stored ∧
      decode ContextKeyConfiguration stored = .ok config

theorem Store.Row.complete_iff {r : Row} :
    r.Complete ↔ ∃ k, ContextKey.ofRow r = .ok k := by
  constructor
  · rintro ⟨hlength, hnull, stored, config, hstored, hconfig⟩
    obtain ⟨id, label, identities, customer, e, rfl⟩ := Row.exists_texts hlength hnull
    obtain rfl : e = stored := Option.some.inj hstored
    exact ⟨⟨id, label, identities, customer, config⟩,
      ContextKey.ofRow_eq_ok_iff.2 ⟨e, rfl, hconfig⟩⟩
  · rintro ⟨k, hk⟩
    obtain ⟨stored, rfl, hconfig⟩ := ContextKey.ofRow_eq_ok_iff.1 hk
    refine ⟨rfl, fun c hc => ?_, stored, k.config, rfl, hconfig⟩
    obtain ⟨text, -, rfl⟩ := List.mem_map.1 hc
    exact Option.some_ne_none text

section Tables

variable {ρ : Type} [KeyRow ρ]

/-- A table of context keys without repeated identifiers. -/
structure WellFormed (rows : List ρ) : Prop where
  distinct : DistinctIds rows
  complete : ∀ r ∈ rows, ∃ row, scan r = .ok row ∧ row.Complete

theorem exists_read_iff {r : ρ} :
    (∃ row, scan r = .ok row ∧ row.Complete) ↔ ∃ k, read r = .ok k := by
  constructor
  · rintro ⟨row, hscan, hcomplete⟩
    obtain ⟨k, hk⟩ := Row.complete_iff.1 hcomplete
    exact ⟨k, read_eq_ok.2 ⟨row, hscan, hk⟩⟩
  · rintro ⟨k, hk⟩
    obtain ⟨row, hscan, hrow⟩ := read_eq_ok.1 hk
    exact ⟨row, hscan, Row.complete_iff.2 ⟨k, hrow⟩⟩

theorem wellFormed_ofKeys {keys : List ContextKey} (h : DistinctIds (keys.map (ofKey (ρ := ρ)))) :
    WellFormed (keys.map (ofKey (ρ := ρ))) where
  distinct := h
  complete := by
    intro r hr
    obtain ⟨k, -, rfl⟩ := List.mem_map.1 hr
    exact exists_read_iff.2 ⟨k, read_ofKey k⟩

/-- Changes keep a table well formed. -/
theorem wellFormed_applied {rows : List ρ} (h : WellFormed rows) (changes : List Change) :
    WellFormed (applied changes rows) where
  distinct := distinctIds_applied changes h.distinct
  complete := by
    intro r hr
    -- a row is an old one or that of a key, and such a row is read as the key
    rcases mem_applied hr with hr | ⟨k, -, rfl⟩
    · exact h.complete r hr
    · exact exists_read_iff.2 ⟨k, read_ofKey k⟩

/-- Rows each of which is read are read together. -/
theorem exists_keys_of_read {rows : List ρ} (h : ∀ r ∈ rows, ∃ k, read r = .ok k) :
    ∃ keys : List ContextKey, rows.map read = keys.map .ok := by
  induction rows with
  | nil => exact ⟨[], rfl⟩
  | cons r rows ih =>
    obtain ⟨k, hk⟩ := h r List.mem_cons_self
    obtain ⟨keys, hkeys⟩ := ih fun s hs => h s (List.mem_cons_of_mem r hs)
    exact ⟨k :: keys, by rw [List.map_cons, List.map_cons, hk, hkeys]⟩

end Tables

/-! ### Registries -/

section Registries

variable {σ τ ρ : Type} [Backend σ τ] [KeyRow ρ] [Tabular σ τ ρ]

/-- What makes the context keys of a registry sound. -/
structure Integrity (r : Registry σ) : Prop where
  wellFormed : WellFormed (Tabular.rows r.database)
  /-- If the query does not fail, the keys of all customer realms can be read. -/
  readable : Tabular.Open r.database → ∀ customer, ∃ keys, r.contextKeys customer = .ok keys
  /-- Each row is read for the customer realm in its column and for no other, -/
  owned : ∀ row ∈ Tabular.rows r.database, ∃ k, read row = .ok k ∧
    KeyRow.customer row = some k.customerRealm ∧
    ∀ customer keys, r.contextKeys customer = .ok keys →
      (k ∈ keys ↔ customer = k.customerRealm)
  /-- and once. -/
  once : ∀ customer keys, r.contextKeys customer = .ok keys → (keys.map ContextKey.id).Nodup

theorem integrity_of_wellFormed {r : Registry σ} (h : WellFormed (Tabular.rows r.database)) :
    Integrity r where
  wellFormed := h
  readable := by
    intro hopen customer
    have hrows : ∀ row ∈ (Tabular.rows r.database).filter (isOf customer), ∃ k, read row = .ok k :=
      fun row hrow => exists_read_iff.1 (h.complete row (List.mem_filter.1 hrow).1)
    obtain ⟨keys, hkeys⟩ := exists_keys_of_read hrows
    exact ⟨keys, contextKeys_ok_iff.2 ⟨hopen, hkeys⟩⟩
  owned := by
    intro row hrow
    obtain ⟨k, hk⟩ := exists_read_iff.1 (h.complete row hrow)
    refine ⟨k, hk, customer_of_read hk, fun customer keys hread => ?_⟩
    have hrows := (contextKeys_ok_iff.1 hread).2
    constructor
    · intro hmem
      obtain ⟨s, hs, hsread⟩ := exists_row_of_mem hrows hmem
      exact ((isOf_iff_of_read hsread).1 (List.mem_filter.1 hs).2).symm
    · -- the row is among those of its customer realm, each of which was read
      rintro rfl
      have hof : isOf k.customerRealm row = true := (isOf_iff_of_read hk).2 rfl
      obtain ⟨k', hk', hread'⟩ := exists_read_of_mem hrows (List.mem_filter.2 ⟨hrow, hof⟩)
      rw [hk] at hread'
      cases hread'
      exact hk'
  once := by
    intro customer keys hread
    rw [← ids_of_read (contextKeys_ok_iff.1 hread).2]
    exact h.distinct.filter _

/-- An attempt keeps the table well formed. -/
theorem wellFormed_attempt {db : σ} (h : WellFormed (Tabular.rows db)) (customer : String)
    (wanted : List ContextKey) (patience : Option Nat) :
    WellFormed (Tabular.rows (attempt db customer wanted patience).2) := by
  rcases rows_attempt db customer wanted patience with heq | ⟨existing, heq⟩
  · rw [heq]
    exact h
  · rw [heq]
    exact wellFormed_applied h _

theorem wellFormed_attemptAll (calls : List (String × List ContextKey × Option Nat)) {db : σ}
    (h : WellFormed (Tabular.rows db)) : WellFormed (Tabular.rows (attemptAll db calls)) := by
  induction calls generalizing db with
  | nil => exact h
  | cons call calls ih => exact ih (wellFormed_attempt h call.1 call.2.1 call.2.2)

end Registries

/-! ### Histories -/

/-- An operation keeps the table well formed. -/
theorem wellFormed_perform {r : Registry Memory} (h : WellFormed r.database.contextKeys)
    (op : Operation) : WellFormed (op.perform r).2.database.contextKeys := by
  cases op with
  | read what => exact h
  | fail failures => exact h
  | replace customer wanted patience =>
    have hrows : WellFormed (Tabular.rows r.database) := h
    exact wellFormed_attempt hrows customer wanted patience

theorem wellFormed_run (ops : List Operation) {r : Registry Memory}
    (h : WellFormed r.database.contextKeys) : WellFormed (run r ops).2.database.contextKeys := by
  induction ops generalizing r with
  | nil => exact h
  | cons op ops ih => exact ih (wellFormed_perform h op)

/-- From a well-formed table no history of requests, whether they succeed, fail or are given up,
leads to one that is not, in either kind of database. -/
theorem run_integrity :
    (∀ (r : Registry Memory) (ops : List Operation), WellFormed r.database.contextKeys →
      Integrity (run r ops).2) ∧
    ∀ (r : Registry Relational) (calls : List (String × List ContextKey × Option Nat)),
      WellFormed r.database.keyRows →
      Integrity { r with database := attemptAll r.database calls } :=
  ⟨fun _ ops h => integrity_of_wellFormed (wellFormed_run ops h),
    fun _ calls h => integrity_of_wellFormed (wellFormed_attemptAll calls h)⟩

/-- A history with an identifier of another customer realm, an attempt that is given up and a
commit that fails. -/
theorem run_integrity_with_failures :
    let old := [bareKey "A" "old" "acme", bareKey "B" "old" "other"]
    let ops : List Operation := [.replace "acme" [bareKey "B" "new" "acme"] (some 2),
      .fail { Memory.Failures.none with commit := some "disk full" },
      .replace "other" [bareKey "A" "new" "third"] none, .fail .none,
      .replace "acme" [bareKey "B" "\"\n" "acme", bareKey "B" "last" "other"] none]
    Integrity (run (.ofDatabase (Memory.storing old)) ops).2 ∧
      Integrity (Registry.ofDatabase (attemptAll (Relational.storing old)
        [("acme", [bareKey "B" "new" "acme"], some 2), ("other", [], none)])) := by
  intro old ops
  have hdistinct : ["A", "B"].Nodup := by decide
  have hmids : DistinctIds (Memory.storing old).contextKeys := hdistinct
  have hdids : DistinctIds (Relational.storing old).keyRows := hdistinct
  exact ⟨run_integrity.1 (.ofDatabase (Memory.storing old)) ops (wellFormed_ofKeys hmids),
    run_integrity.2 (.ofDatabase (Relational.storing old)) _ (wellFormed_ofKeys hdids)⟩

end RealmRegistry
