/-
Databases that keep their context keys in a table.

A transaction has rows of its own (`Tabular.Holds`), which no step changes but by the change that
is asked for, and which become those of the database when it is committed.  What goes wrong is a
fault of the database, and then the rows of the database are as they were.  This is all that is
needed of a database (`Tabular`).  For one in memory, whose transactions work on copies, each step
comes to one of two things (`Memory.begin_eq`, `Memory.execute_eq`, `Memory.commit_eq`).
-/
import RealmRegistry.Proofs.Registry.KeyRow
import RealmRegistry.Store.Memory

namespace RealmRegistry

open Store KeyRow

/-- A database that keeps its context keys in a table of rows `ρ`. -/
class Tabular (σ : Type) (τ ρ : outParam Type) [Backend σ τ] [KeyRow ρ] where
  /-- the committed rows, in the order of a query -/
  rows : σ → List ρ
  /-- queries for context keys do not fail -/
  Open : σ → Prop
  /-- a transaction in progress that makes these rows those of the database when it is committed -/
  Holds : σ → τ → List ρ → Prop
  query_open : ∀ {db}, Open db → ∀ customer,
    Backend.query db .selectContextKeys [customer] = ((rows db).filter (isOf customer)).map scan
  query_failing : ∀ {db}, ¬ Open db → ∀ customer,
    ∃ f, .error (.database f) ∈ Backend.query db .selectContextKeys [customer]
  begin_error : ∀ {db e db'}, Backend.begin db = (.error e, db') →
    (∃ f, e = .database f) ∧ rows db' = rows db
  begin_ok : ∀ {db t db'}, Open db → Backend.begin db = (.ok t, db') →
    rows db' = rows db ∧ Holds db' t (rows db)
  execute_error : ∀ {db t l e t' db'} {c : Change}, Holds db t l →
    Backend.execute db t c.statement c.params = (.error e, t', db') →
    (∃ f, e = .database f) ∧ rows db' = rows db
  execute_ok : ∀ {db t l n t' db'} {c : Change}, Holds db t l →
    Backend.execute db t c.statement c.params = (.ok n, t', db') →
    rows db' = rows db ∧ Holds db' t' (c.onRows l)
  commit_error : ∀ {db t l e t' db'}, Holds db t l →
    Backend.commit db t = (.error e, t', db') → (∃ f, e = .database f) ∧ rows db' = rows db
  commit_ok : ∀ {db t l t' db'}, Holds db t l → Backend.commit db t = (.ok (), t', db') →
    rows (Backend.release db' t') = l ∧ Open (Backend.release db' t')
  rows_release : ∀ db t, rows (Backend.release db t) = rows db
  /-- nothing is in the way of a transaction -/
  Calm : σ → Prop
  /-- nothing is in the way of the next steps of a transaction -/
  Serves : σ → τ → Prop
  begin_calm : ∀ {db}, Open db → Calm db →
    ∃ t db', Backend.begin db = (.ok t, db') ∧ Serves db' t
  execute_calm : ∀ {db t l} {c : Change}, Holds db t l → Serves db t →
    ∃ n t' db', Backend.execute db t c.statement c.params = (.ok n, t', db') ∧ Serves db' t'
  commit_calm : ∀ {db t l}, Holds db t l → Serves db t →
    ∃ t' db', Backend.commit db t = (.ok (), t', db')

/-! ### Rows of columns -/

instance instKeyRowRow : KeyRow Row where
  scan := .ok
  id r := r.text? 0
  customer r := r.text? 3
  ofKey k := .ofTexts k.columns
  scan_ofKey _ := rfl
  id_of_scan h := by rw [Except.ok.inj h]
  customer_of_scan h := by rw [Except.ok.inj h]

namespace Store.Memory

theorem upsertRow_eq_putKey (k : ContextKey) (rows : List Row) :
    upsertRow k.id (.ofTexts k.columns) rows = putKey k rows := by
  induction rows with
  | nil => rfl
  | cons r rows ih =>
    rw [upsertRow, putKey, ih]
    simp only [hasId, beq_iff_eq]
    rfl

theorem change_eq (c : Change) (rows : List Row) :
    ∃ n, change c.statement c.params rows = .ok (n, c.onRows rows) := by
  cases c with
  | delete i => exact ⟨_, rfl⟩
  | upsert k =>
    refine ⟨1, ?_⟩
    show Except.ok (1, upsertRow k.id (.ofTexts k.columns) rows) = _
    rw [upsertRow_eq_putKey]
    rfl

/-- The queries for context keys are not made to fail. -/
def Open (m : Memory) : Prop :=
  m.failure .selectContextKeys = none ∧ m.iterationFailure .selectContextKeys = none

theorem query_open {m : Memory} (h : m.Open) (customer : String) :
    m.query .selectContextKeys [customer] = (m.contextKeys.filter (isOf customer)).map scan := by
  rw [query, h.1]
  simp only [Memory.rowsFor, h.2]
  rfl

theorem query_failing {m : Memory} (h : ¬ m.Open) (customer : String) :
    ∃ f, .error (.database f) ∈ m.query .selectContextKeys [customer] := by
  rw [query]
  cases hfailure : m.failure .selectContextKeys with
  | some text => exact ⟨.reported text, List.mem_cons_self⟩
  | none =>
    cases hiteration : m.iterationFailure .selectContextKeys with
    | none => exact absurd ⟨hfailure, hiteration⟩ h
    | some after =>
      -- some rows come before the fault, but it comes
      obtain ⟨count, text⟩ := after
      exact ⟨.reported text, List.mem_append_right _ List.mem_cons_self⟩

/-- A transaction in progress, with its copy of the rows. -/
def Holds (m : Memory) (t : Transaction) (l : List Row) : Prop :=
  m.Open ∧ t.committed = false ∧ t.staged = l

theorem begin_eq (m : Memory) :
    (∃ text, Backend.begin m = (reported text, m)) ∨
      Backend.begin m = (.ok ⟨m.contextKeys, false⟩, { m with started := m.started + 1 }) := by
  rw [show Backend.begin m = m.begin from rfl, begin]
  cases m.beginFailure with
  | none => exact .inr rfl
  | some text => exact .inl ⟨text, rfl⟩

/-- A change is noted, and carried out on the copy unless it is made to fail. -/
theorem execute_eq (m : Memory) (t : Transaction) (c : Change) :
    (∃ text, Backend.execute m t c.statement c.params =
      (reported text, t, { m with executed := m.executed ++ [(c.statement, c.params)] })) ∨
    ∃ n, Backend.execute m t c.statement c.params =
      (.ok n, { t with staged := c.onRows t.staged },
        { m with executed := m.executed ++ [(c.statement, c.params)] }) := by
  obtain ⟨n, hchange⟩ := change_eq c t.staged
  rw [show Backend.execute m t c.statement c.params = m.execute t c.statement c.params from rfl,
    execute]
  cases m.failure c.statement with
  | some text => exact .inl ⟨text, rfl⟩
  | none =>
    rw [hchange]
    exact .inr ⟨n, rfl⟩

theorem commit_eq (m : Memory) (t : Transaction) :
    (∃ text, Backend.commit m t = (reported text, t, m)) ∨
      Backend.commit m t =
        (.ok (), ⟨[], true⟩, { m with contextKeys := t.staged, commits := m.commits + 1 }) := by
  rw [show Backend.commit m t = m.commit t from rfl, commit]
  cases m.commitFailure with
  | none => exact .inr rfl
  | some text => exact .inl ⟨text, rfl⟩

@[simp] theorem contextKeys_release (m : Memory) (t : Transaction) :
    (m.release t).contextKeys = m.contextKeys := by
  rw [release]
  split <;> rfl

/-- No step of a transaction is made to fail. -/
def Calm (m : Memory) : Prop :=
  m.beginFailure = none ∧ (∀ c : Change, m.failure c.statement = none) ∧ m.commitFailure = none

theorem begin_calm {m : Memory} (h : m.Calm) : ∃ t m', m.begin = (.ok t, m') ∧ m'.Calm := by
  refine ⟨⟨m.contextKeys, false⟩, { m with started := m.started + 1 }, ?_, h⟩
  rw [begin, h.1]

theorem execute_calm {m : Memory} {t : Transaction} {c : Change} (h : m.Calm) :
    ∃ n t' m', m.execute t c.statement c.params = (.ok n, t', m') ∧ m'.Calm := by
  obtain ⟨n, hchange⟩ := change_eq c t.staged
  refine ⟨n, { t with staged := c.onRows t.staged },
    { m with executed := m.executed ++ [(c.statement, c.params)] }, ?_, h⟩
  rw [execute, h.2.1 c, hchange]

theorem commit_calm {m : Memory} {t : Transaction} (h : m.Calm) :
    ∃ t' m', m.commit t = (.ok (), t', m') := by
  refine ⟨⟨[], true⟩, { m with contextKeys := t.staged, commits := m.commits + 1 }, ?_⟩
  rw [commit, h.2.2]

/-- A database with some context keys, in which nothing fails. -/
def storing (keys : List ContextKey) : Memory := { empty with contextKeys := keys.map ofKey }

theorem open_storing (keys : List ContextKey) : (storing keys).Open := ⟨rfl, rfl⟩

theorem calm_storing (keys : List ContextKey) : (storing keys).Calm := ⟨rfl, fun _ => rfl, rfl⟩

end Store.Memory

instance instTabularMemory : Tabular Memory Memory.Transaction Row where
  rows := Memory.contextKeys
  Open := Memory.Open
  Holds := Memory.Holds
  query_open := Memory.query_open
  query_failing := Memory.query_failing
  begin_error := by
    intro db e db' h
    rcases Memory.begin_eq db with ⟨text, heq⟩ | heq
    · cases heq.symm.trans h
      exact ⟨⟨_, rfl⟩, rfl⟩
    · cases heq.symm.trans h
  begin_ok := by
    intro db t db' hopen h
    rcases Memory.begin_eq db with ⟨text, heq⟩ | heq
    · cases heq.symm.trans h
    · cases heq.symm.trans h
      exact ⟨rfl, hopen, rfl, rfl⟩
  execute_error := by
    intro db t l e t' db' c _ h
    rcases Memory.execute_eq db t c with ⟨text, heq⟩ | ⟨n, heq⟩
    · cases heq.symm.trans h
      exact ⟨⟨_, rfl⟩, rfl⟩
    · cases heq.symm.trans h
  execute_ok := by
    intro db t l n t' db' c hl h
    obtain ⟨hopen, hcommitted, rfl⟩ := hl
    rcases Memory.execute_eq db t c with ⟨text, heq⟩ | ⟨n, heq⟩
    · cases heq.symm.trans h
    · cases heq.symm.trans h
      exact ⟨rfl, hopen, hcommitted, rfl⟩
  commit_error := by
    intro db t l e t' db' _ h
    rcases Memory.commit_eq db t with ⟨text, heq⟩ | heq
    · cases heq.symm.trans h
      exact ⟨⟨_, rfl⟩, rfl⟩
    · cases heq.symm.trans h
  commit_ok := by
    intro db t l t' db' hl h
    obtain ⟨hopen, -, rfl⟩ := hl
    rcases Memory.commit_eq db t with ⟨text, heq⟩ | heq
    · cases heq.symm.trans h
    · cases heq.symm.trans h
      exact ⟨rfl, hopen⟩
  rows_release := Memory.contextKeys_release
  Calm := Memory.Calm
  Serves db _ := db.Calm
  begin_calm _ := Memory.begin_calm
  execute_calm _ := Memory.execute_calm
  commit_calm _ := Memory.commit_calm

end RealmRegistry
