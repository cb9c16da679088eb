/-
The effect of replacing the context keys of a customer realm.

A replacement that succeeds makes of the table exactly what is meant (`reconciled`), and one that
fails leaves it as it was.  The transaction is followed change by change: what it would commit is
always what the changes so far make of the rows that it began with.

* `applyChanges_cases`, `transact_cases` — what comes of changes in a transaction;
* `contextKeys_ok_iff` — when the context keys of a customer realm are read, and which they are;
* `replaceContextKeys_cases` — what comes of a replacement;
* `replaceContextKeys_reconciles` — the table after a replacement, in both kinds of database.
-/
import RealmRegistry.Proofs.Registry.Reconciled
import RealmRegistry.Proofs.Registry.Records

namespace RealmRegistry

open Store KeyRow

section Replacement

variable {σ τ ρ : Type} [Backend σ τ] [KeyRow ρ] [Tabular σ τ ρ]

/-! ### Transactions -/

/-- Changes are carried out in a transaction up to the first that is refused. -/
theorem applyChanges_cases {db : σ} {t : τ} {l : List ρ} (h : Tabular.Holds db t l)
    (changes : List Change) :
    (∃ f t' db', applyChanges db t changes = (.error (.database f), t', db') ∧
      Tabular.rows db' = Tabular.rows db) ∨
    ∃ t' db', applyChanges db t changes = (.ok (), t', db') ∧
      Tabular.rows db' = Tabular.rows db ∧ Tabular.Holds db' t' (applied changes l) := by
  -- the rows that the transaction holds are carried along, changed by each change
  induction changes generalizing db t l with
  | nil => exact .inr ⟨t, db, rfl, rfl, h⟩
  | cons c changes ih =>
    rw [applyChanges]
    rcases hstep : Backend.execute db t c.statement c.params with ⟨e | n, t₁, db₁⟩
    · obtain ⟨⟨f, rfl⟩, hrows⟩ := Tabular.execute_error h hstep
      exact .inl ⟨f, t₁, db₁, rfl, hrows⟩
    · obtain ⟨hrows, hnext⟩ := Tabular.execute_ok h hstep
      rcases ih hnext with ⟨f, t', db', heq, hrest⟩ | ⟨t', db', heq, hrest, hheld⟩
      · exact .inl ⟨f, t', db', heq, hrest.trans hrows⟩
      · exact .inr ⟨t', db', heq, hrest.trans hrows, hheld⟩

/-- A transaction does all of its changes, or none. -/
theorem transact_cases {db : σ} (h : Tabular.Open db) (changes : List Change) :
    (∃ f db', transact db changes = (.error (.database f), db') ∧
      Tabular.rows db' = Tabular.rows db) ∨
    ∃ db', transact db changes = (.ok (), db') ∧
      Tabular.rows db' = applied changes (Tabular.rows db) ∧ Tabular.Open db' := by
  rw [transact]
  rcases hbegin : Backend.begin db with ⟨e | t, db₁⟩
  · obtain ⟨⟨f, rfl⟩, hrows⟩ := Tabular.begin_error hbegin
    exact .inl ⟨f, db₁, rfl, hrows⟩
  obtain ⟨hrows₁, hheld⟩ := Tabular.begin_ok h hbegin
  rcases applyChanges_cases hheld changes with
    ⟨f, t₂, db₂, hchanges, hrows₂⟩ | ⟨t₂, db₂, hchanges, hrows₂, hheld⟩
  · -- the transaction is rolled back
    simp only [hchanges]
    exact .inl ⟨f, _, rfl, (Tabular.rows_release db₂ t₂).trans (hrows₂.trans hrows₁)⟩
  simp only [hchanges]
  rcases hcommit : Backend.commit db₂ t₂ with ⟨e | _, t₃, db₃⟩
  · obtain ⟨⟨f, rfl⟩, hrows₃⟩ := Tabular.commit_error hheld hcommit
    exact .inl ⟨f, _, rfl,
      (Tabular.rows_release db₃ t₃).trans (hrows₃.trans (hrows₂.trans hrows₁))⟩
  · obtain ⟨hrows₃, hopen⟩ := Tabular.commit_ok hheld hcommit
    exact .inr ⟨_, rfl, hrows₃, hopen⟩

/-- Nothing is in the way of changes in a transaction that is served. -/
theorem applyChanges_calm {db : σ} {t : τ} {l : List ρ} (h : Tabular.Holds db t l)
    (hs : Tabular.Serves db t) (changes : List Change) :
    ∃ t' db', applyChanges db t changes = (.ok (), t', db') ∧ Tabular.Serves db' t' := by
  induction changes generalizing db t l with
  | nil => exact ⟨t, db, rfl, hs⟩
  | cons c changes ih =>
    obtain ⟨n, t₁, db₁, hstep, hs₁⟩ := Tabular.execute_calm (c := c) h hs
    obtain ⟨-, hheld⟩ := Tabular.execute_ok h hstep
    obtain ⟨t', db', heq, hs'⟩ := ih hheld hs₁
    refine ⟨t', db', ?_, hs'⟩
    rw [applyChanges, hstep]
    exact heq

/-- In a calm database changes are carried out. -/
theorem transact_calm {db : σ} (h : Tabular.Open db) (hcalm : Tabular.Calm db)
    (changes : List Change) : ∃ db', transact db changes = (.ok (), db') := by
  obtain ⟨t₁, db₁, hbegin, hs₁⟩ := Tabular.begin_calm h hcalm
  obtain ⟨-, hheld₁⟩ := Tabular.begin_ok h hbegin
  obtain ⟨t₂, db₂, hchanges, hs₂⟩ := applyChanges_calm hheld₁ hs₁ changes
  rcases applyChanges_cases hheld₁ changes with
    ⟨f, t', db', heq, -⟩ | ⟨t', db', heq, -, hheld₂⟩
  · cases heq.symm.trans hchanges
  cases heq.symm.trans hchanges
  obtain ⟨t₃, db₃, hcommit⟩ := Tabular.commit_calm hheld₂ hs₂
  refine ⟨Backend.release db₃ t₃, ?_⟩
  simp only [transact, hbegin, hchanges, hcommit]

/-! ### Reading -/

/-- The context keys of a customer realm are read if the query does not fail and each of its rows
is that of a context key. -/
theorem contextKeys_ok_iff {r : Registry σ} {customer : String} {keys : List ContextKey} :
    r.contextKeys customer = .ok keys ↔ Tabular.Open r.database ∧
      ((Tabular.rows r.database).filter (isOf customer)).map read = keys.map .ok := by
  rw [Registry.contextKeys]
  constructor
  · intro h
    have hopen : Tabular.Open r.database := Classical.byContradiction fun hnot => by
      obtain ⟨f, hf⟩ := Tabular.query_failing hnot customer
      exact readRows_error hf keys h
    rw [Tabular.query_open hopen] at h
    exact ⟨hopen, readRows_scan.1 h⟩
  · rintro ⟨hopen, h⟩
    rw [Tabular.query_open hopen]
    exact readRows_scan.2 h

/-! ### Replacements -/

/-- A replacement fails as reading does, or as a transaction of its plan does, or the plan is
carried out. -/
theorem replaceContextKeys_cases (r : Registry σ) (customer : String) (wanted : List ContextKey) :
    (∃ e, r.contextKeys customer = .error e ∧
      r.replaceContextKeys customer wanted = (.error e, r)) ∨
    ∃ existing, r.contextKeys customer = .ok existing ∧
      ((∃ f db', r.replaceContextKeys customer wanted =
          (.error (.database f), { r with database := db' }) ∧
          Tabular.rows db' = Tabular.rows r.database) ∨
        ∃ db', r.replaceContextKeys customer wanted = (.ok (), { r with database := db' }) ∧
          Tabular.rows db' = applied (plan existing wanted) (Tabular.rows r.database) ∧
          Tabular.Open db') := by
  rw [Registry.replaceContextKeys]
  cases hread : r.contextKeys customer with
  | error e => exact .inl ⟨e, rfl, rfl⟩
  | ok existing =>
    refine .inr ⟨existing, rfl, ?_⟩
    have hopen := (contextKeys_ok_iff.1 hread).1
    rcases transact_cases hopen (plan existing wanted) with
      ⟨f, db', heq, hrows⟩ | ⟨db', heq, hrows, hopen'⟩
    · simp only [heq]
      exact .inl ⟨f, db', rfl, hrows⟩
    · simp only [heq]
      exact .inr ⟨db', rfl, hrows, hopen'⟩

/-- A replacement in a calm database fails only as reading does. -/
theorem replaceContextKeys_calm {r : Registry σ} {customer : String} {existing : List ContextKey}
    (h : r.contextKeys customer = .ok existing) (hcalm : Tabular.Calm r.database)
    (wanted : List ContextKey) :
    ∃ db', r.replaceContextKeys customer wanted = (.ok (), { r with database := db' }) := by
  obtain ⟨db', heq⟩ :=
    transact_calm (contextKeys_ok_iff.1 h).1 hcalm (plan existing wanted)
  exact ⟨db', by simp only [Registry.replaceContextKeys, h, heq]⟩

/-! ### Tables -/

/-- A table of context keys was replaced for one customer realm. -/
structure Reconciles (customer : String) (wanted : List ContextKey) (old new : List ρ) : Prop where
  /-- row by row, in their order -/
  table : new = reconciled customer wanted old
  /-- rows of other identifiers and other customer realms are untouched -/
  others : new.filter (isOther customer wanted) = old.filter (isOther customer wanted)
  distinct : DistinctIds new
  /-- no row loses its identifier -/
  identified : (∀ r ∈ old, (KeyRow.id r).isSome) → ∀ r ∈ new, (KeyRow.id r).isSome

omit [Backend σ τ] [Tabular σ τ ρ] in
theorem isSome_id_of_mem_applied {changes : List Change} {rows : List ρ}
    (h : ∀ r ∈ rows, (KeyRow.id r).isSome) : ∀ r ∈ applied changes rows, (KeyRow.id r).isSome := by
  intro r hr
  rcases mem_applied hr with hr | ⟨k, -, rfl⟩
  · exact h r hr
  · rw [id_ofKey]
    rfl

/-- A replacement that succeeds makes of the table what is meant. -/
theorem reconciles_of_ok {r r' : Registry σ} {customer : String} {wanted : List ContextKey}
    (hids : DistinctIds (Tabular.rows r.database))
    (h : r.replaceContextKeys customer wanted = (.ok (), r')) :
    Reconciles customer wanted (Tabular.rows r.database) (Tabular.rows r'.database) := by
  rcases replaceContextKeys_cases r customer wanted with
    ⟨e, -, heq⟩ | ⟨existing, hread, ⟨f, db', heq, -⟩ | ⟨db', heq, hrows, -⟩⟩
  · cases heq.symm.trans h
  · cases heq.symm.trans h
  · cases heq.symm.trans h
    have htable := applied_plan wanted hids (contextKeys_ok_iff.1 hread).2
    exact
      { table := hrows.trans htable
        others := by rw [hrows, htable]; exact filter_others_reconciled customer wanted _
        distinct := by rw [hrows]; exact distinctIds_applied _ hids
        identified := by rw [hrows]; exact isSome_id_of_mem_applied }

/-- A database can still be read after a replacement that succeeds. -/
theorem open_of_ok {r r' : Registry σ} {customer : String} {wanted : List ContextKey}
    (h : r.replaceContextKeys customer wanted = (.ok (), r')) : Tabular.Open r'.database := by
  rcases replaceContextKeys_cases r customer wanted with
    ⟨e, -, heq⟩ | ⟨existing, -, ⟨f, db', heq, -⟩ | ⟨db', heq, -, hopen⟩⟩
  · cases heq.symm.trans h
  · cases heq.symm.trans h
  · cases heq.symm.trans h
    exact hopen

end Replacement

/-- After a replacement that succeeds the committed table, in either kind of database, is row by
row the one that is meant. -/
theorem replaceContextKeys_reconciles :
    (∀ (r r' : Registry Memory) (customer : String) (wanted : List ContextKey),
      DistinctIds r.database.contextKeys →
      r.replaceContextKeys customer wanted = (.ok (), r') →
      Reconciles customer wanted r.database.contextKeys r'.database.contextKeys) ∧
    ∀ (r r' : Registry Relational) (customer : String) (wanted : List ContextKey),
      DistinctIds r.database.keyRows →
      r.replaceContextKeys customer wanted = (.ok (), r') →
      Reconciles customer wanted r.database.keyRows r'.database.keyRows :=
  ⟨fun _ _ _ _ hids h => reconciles_of_ok hids h,
    fun _ _ _ _ hids h => reconciles_of_ok hids h⟩

/-- A context key without settings. -/
def bareKey (id label customer : String) : ContextKey :=
  ⟨id, label, "identities", customer, Schema.standard ContextKeyConfiguration⟩

/-- A context key goes, one of another customer realm is taken over, and of two wanted ones with a
new identifier the last counts. -/
theorem replaceContextKeys_takes_over :
    let old := [bareKey "A" "old" "acme", bareKey "B" "old" "other", bareKey "C" "old" "acme"]
    let wanted := [bareKey "D" "first" "acme", bareKey "B" "new" "acme", bareKey "C" "new" "acme",
      bareKey "D" "last" "acme"]
    let new := [bareKey "B" "new" "acme", bareKey "C" "new" "acme", bareKey "D" "last" "acme"]
    (∃ r' : Registry Memory,
      (Registry.ofDatabase (Memory.storing old)).replaceContextKeys "acme" wanted = (.ok (), r') ∧
        r'.database.contextKeys = new.map ofKey) ∧
    ∃ r' : Registry Relational,
      (Registry.ofDatabase (Relational.storing old)).replaceContextKeys "acme" wanted =
        (.ok (), r') ∧ r'.database.keyRows = new.map ofKey := by
  intro old wanted new
  have hread {ρ : Type} [KeyRow ρ] :
      [(ofKey (bareKey "A" "old" "acme") : ρ), ofKey (bareKey "C" "old" "acme")].map read =
        [bareKey "A" "old" "acme", bareKey "C" "old" "acme"].map .ok := by
    simp
  have hdistinct : ["A", "B", "C"].Nodup := by decide
  constructor
  · have hkeys : (Registry.ofDatabase (Memory.storing old)).contextKeys "acme" =
        .ok [bareKey "A" "old" "acme", bareKey "C" "old" "acme"] :=
      contextKeys_ok_iff.2 ⟨Memory.open_storing old, hread⟩
    obtain ⟨db', h⟩ := replaceContextKeys_calm hkeys (Memory.calm_storing old) wanted
    have hids : DistinctIds (Memory.storing old).contextKeys := hdistinct
    exact ⟨_, h, (replaceContextKeys_reconciles.1 _ _ _ _ hids h).table⟩
  · have hkeys : (Registry.ofDatabase (Relational.storing old)).contextKeys "acme" =
        .ok [bareKey "A" "old" "acme", bareKey "C" "old" "acme"] :=
      contextKeys_ok_iff.2 ⟨Relational.open_storing old, hread⟩
    obtain ⟨db', h⟩ := replaceContextKeys_calm hkeys (Relational.calm_storing old) wanted
    have hids : DistinctIds (Relational.storing old).keyRows := hdistinct
    exact ⟨_, h, (replaceContextKeys_reconciles.2 _ _ _ _ hids h).table⟩

end RealmRegistry
