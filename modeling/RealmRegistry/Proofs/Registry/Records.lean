/-
A relational database keeps its context keys in a table of records.

A transaction sees the tables as they were at its first statement.  Until it changes something the
rows that it holds are those of the database, so there is nothing to store when it is committed.

* `Tables.change_cases` — what a change of context keys does to the tables;
* `Relational.execute_cases`, `Relational.commit_cases` — and what it comes to in a transaction.
-/
import RealmRegistry.Proofs.Registry.Tabular
import RealmRegistry.Store.Relational

namespace RealmRegistry

open Store KeyRow

/-! ### Records as rows -/

namespace Store

/-- The text in a cell, if there is one. -/
def Cell.text? : Cell → Option String
  | text s => some s
  | _ => none

@[simp] theorem Cell.text?_eq_some {c : Cell} {s : String} : c.text? = some s ↔ c = .text s := by
  cases c <;> simp [Cell.text?]

/-- All columns of the context keys. -/
def keyColumns : Tables.Selection := ⟨.contextKeys, fun _ => true, [0, 1, 2, 3, 4]⟩

theorem readCells_ok {n : Nat} {cells : List Cell} {columns : List (Option String)}
    (h : Tables.readCells n cells = .ok columns) : columns = cells.map Cell.text? := by
  induction cells generalizing n columns with
  | nil => cases h; rfl
  | cons c cells ih =>
    cases c with
    | bytes b => cases h
    | null =>
      rw [Tables.readCells] at h
      cases hrest : Tables.readCells (n + 1) cells with
      | error e => rw [hrest] at h; cases h
      | ok rest =>
        rw [hrest] at h
        cases h
        rw [ih hrest]
        rfl
    | text s =>
      rw [Tables.readCells] at h
      cases hrest : Tables.readCells (n + 1) cells with
      | error e => rw [hrest] at h; cases h
      | ok rest =>
        rw [hrest] at h
        cases h
        rw [ih hrest]
        rfl

theorem scan_ok {r : Record} {row : Row} (h : keyColumns.row r = .ok row) :
    row.columns = [0, 1, 2, 3, 4].map fun index => (r.cell index).text? := by
  rw [Tables.Selection.row] at h
  split at h
  next columns hcells =>
    cases h
    rw [readCells_ok hcells, List.map_map]
    rfl
  next => cases h

end Store

instance instKeyRowRecord : KeyRow Record where
  scan := keyColumns.row
  id r := (r.cell 0).text?
  customer r := (r.cell 3).text?
  ofKey k := k.columns.map .text
  scan_ofKey _ := rfl
  id_of_scan h := by rw [Row.text?, scan_ok h]; rfl
  customer_of_scan h := by rw [Row.text?, scan_ok h]; rfl

/-! ### Faults -/

namespace Store

theorem ofDriver_eq {e : DriverFault} (h : e.isAboutColumns = false) :
    Fault.ofDriver e = .database (.driver e) := by
  rw [Fault.ofDriver, h]
  rfl

/-! ### Tables -/

namespace Tables

theorem rowsOf_cases (t : Tables) (name : TableName) :
    (∃ e, t.rowsOf name = .error e ∧ e.isAboutColumns = false ∧ t.rows name = none) ∨
      ∃ l, t.rowsOf name = .ok l ∧ t.rows name = some l := by
  rw [rowsOf]
  cases t.rows name with
  | none => exact .inl ⟨_, rfl, rfl, rfl⟩
  | some l => exact .inr ⟨l, rfl, rfl⟩

theorem putRecord_eq_putKey (k : ContextKey) (l : List Record) :
    putRecord (ofKey k) l = putKey k l := by
  induction l with
  | nil => rfl
  | cons s l ih =>
    -- two cells of one text are the same key, and nothing else is the same as a text
    have hsame : sameKey (ofKey k) s = true ↔ KeyRow.id s = some k.id := by
      show decide (Cell.text k.id = s.cell 0) = true ↔ (s.cell 0).text? = some k.id
      rw [decide_eq_true_eq, Cell.text?_eq_some]
      exact eq_comm
    rw [putRecord, putKey, ih]
    simp only [hsame]

theorem filter_delete (i : String) (l : List Record) :
    (l.filter fun r => !(r.cell 0 = .text i && Cell.text i != .null)) =
      Change.onRows (.delete i) l := by
  refine List.filter_congr fun r _ => ?_
  rw [Bool.eq_iff_iff]
  show _ ↔ ((r.cell 0).text? != some i) = true
  rw [bne_iff_ne, ne_eq, Cell.text?_eq_some]
  simp

theorem delete_eq {t : Tables} {l : List Record} (h : t.rows .contextKeys = some l) (i : String) :
    t.delete (.text i) =
      if (Change.onRows (.delete i) l).length < l.length ∧ t.locked = some i then
        engineFault 1811 ("context key " ++ i ++ " is locked")
      else .ok (l.length - (Change.onRows (.delete i) l).length,
        t.setRows .contextKeys (Change.onRows (.delete i) l)) := by
  have hrows : t.rowsOf .contextKeys = .ok l := by
    rw [rowsOf, h]
  rw [delete, hrows, ← filter_delete]
  rfl

theorem upsert_eq {t : Tables} {l : List Record} (h : t.rows .contextKeys = some l)
    (k : ContextKey) :
    t.upsert (ofKey k) =
      if t.refused = some k.id then engineFault 1811 ("context key " ++ k.id ++ " is refused")
      else .ok (t.setRows .contextKeys (putKey k l)) := by
  have hrows : t.rowsOf .contextKeys = .ok l := by
    rw [rowsOf, h]
  have hrefused : t.checkRefused .contextKeys (ofKey k) =
      if t.refused = some k.id then engineFault 1811 ("context key " ++ k.id ++ " is refused")
      else .ok () := rfl
  rw [upsert, hrows, ← putRecord_eq_putKey]
  show (do checkRecord t .contextKeys (ofKey k); return t.setRows .contextKeys _) = _
  rw [checkRecord, hrefused]
  by_cases hguard : t.refused = some k.id
  · rw [if_pos hguard, if_pos hguard]
    rfl
  · rw [if_neg hguard, if_neg hguard]
    rfl

/-- A change of context keys is refused, or it does what it says to the rows; one that changes no
row leaves them as they were. -/
theorem change_cases {t : Tables} {l : List Record} (h : t.rows .contextKeys = some l)
    (c : Change) :
    (∃ e, t.change c.statement c.params = .error e ∧ e.isAboutColumns = false) ∨
      ∃ n t', t.change c.statement c.params = .ok (n, t') ∧
        t'.rows .contextKeys = some (c.onRows l) ∧ (n = 0 → c.onRows l = l) := by
  have hset (l' : List Record) : (t.setRows .contextKeys l').rows .contextKeys = some l' := rfl
  cases c with
  | delete i =>
    show (∃ e, t.delete (.text i) = .error e ∧ _) ∨ ∃ n t', t.delete (.text i) = .ok (n, t') ∧ _
    rw [delete_eq h i]
    split
    · exact .inl ⟨_, rfl, rfl⟩
    · refine .inr ⟨_, _, rfl, hset _, fun hn => ?_⟩
      have hsublist : (Change.onRows (.delete i) l).Sublist l := List.filter_sublist
      exact hsublist.eq_of_length_le (Nat.le_of_sub_eq_zero hn)
  | upsert k =>
    show (∃ e, (t.upsert (ofKey k)).map _ = .error e ∧ _) ∨
      ∃ n t', (t.upsert (ofKey k)).map _ = .ok (n, t') ∧ _
    rw [upsert_eq h k]
    split
    · exact .inl ⟨_, rfl, rfl⟩
    · exact .inr ⟨1, _, rfl, hset _, fun hn => absurd hn Nat.one_ne_zero⟩

/-- Nothing guards the context keys and nothing refers to them. -/
def Unguarded (t : Tables) : Prop := t.locked = none ∧ t.refused = none ∧ t.pinned = []

/-- Without guards no change of context keys is refused, and none sets up a guard. -/
theorem change_unguarded {t : Tables} {l : List Record} (h : t.rows .contextKeys = some l)
    (ht : t.Unguarded) (c : Change) :
    ∃ n t', t.change c.statement c.params = .ok (n, t') ∧ t'.Unguarded := by
  cases c with
  | delete i =>
    show ∃ n t', t.delete (.text i) = .ok (n, t') ∧ _
    have hunlocked : t.locked ≠ some i := by
      rw [ht.1]
      exact (Option.some_ne_none _).symm
    rw [delete_eq h i, if_neg fun hguard => hunlocked hguard.2]
    exact ⟨_, _, rfl, ht⟩
  | upsert k =>
    show ∃ n t', (t.upsert (ofKey k)).map _ = .ok (n, t') ∧ _
    have hallowed : t.refused ≠ some k.id := by
      rw [ht.2.1]
      exact (Option.some_ne_none _).symm
    rw [upsert_eq h k, if_neg hallowed]
    exact ⟨_, _, rfl, ht⟩

end Tables

/-! ### Transactions -/

namespace Relational

/-- Whether a connection can be had. -/
def CanTake (d : Relational) : Prop := d.closed = false ∧ (d.idle ≠ [] ∨ d.free ≠ 0)

theorem take_ok {d : Relational} (h : d.CanTake) :
    ∃ count d', d.take = .ok (count, d') ∧ d'.tables = d.tables ∧ d'.closed = false := by
  obtain ⟨hclosed, hleft⟩ := h
  rw [take, if_neg (Bool.eq_false_iff.1 hclosed)]
  split
  next count idle _ => exact ⟨count, _, rfl, rfl, hclosed⟩
  next hidle =>
    rw [if_neg (hleft.resolve_left fun hne => hne hidle)]
    exact ⟨0, _, rfl, rfl, hclosed⟩

theorem writing_take {d d' : Relational} {count : Nat} (h : d.take = .ok (count, d')) :
    d'.writing = d.writing := by
  rw [take] at h
  split at h
  · cases h
  split at h
  · cases h; rfl
  split at h
  · cases h
  · cases h; rfl

theorem take_error {d : Relational} (h : ¬ d.CanTake) :
    ∃ e, d.take = .error e ∧ e.isAboutColumns = false := by
  rw [take]
  split
  next => exact ⟨_, rfl, rfl⟩
  next hclosed =>
    have hclosed : d.closed = false := Bool.eq_false_iff.2 hclosed
    split
    next count idle hidle =>
      exact absurd ⟨hclosed, .inl fun hnil => by rw [hnil] at hidle; cases hidle⟩ h
    next hidle =>
      split
      next => exact ⟨_, rfl, rfl⟩
      next hfree => exact absurd ⟨hclosed, .inr hfree⟩ h

theorem claim_cases (d : Relational) (v : View) :
    (∃ e, d.claim v = .error e ∧ e.isAboutColumns = false) ∨
      ∃ v' d', d.claim v = .ok (v', d') ∧ v'.tables = v.tables ∧ v'.changed = v.changed ∧
        d'.tables = d.tables ∧ d'.closed = d.closed := by
  rw [claim]
  split
  · exact .inr ⟨v, d, rfl, rfl, rfl, rfl, rfl⟩
  -- another transaction writes
  split
  · exact .inl ⟨_, rfl, rfl⟩
  -- what it sees is not the latest
  split
  · exact .inl ⟨_, rfl, rfl⟩
  · exact .inr ⟨_, _, rfl, rfl, rfl, rfl, rfl⟩

theorem unclaim_eq (d : Relational) (v : Option View) :
    (d.unclaim v).tables = d.tables ∧ (d.unclaim v).closed = d.closed := by
  cases v with
  | none => exact ⟨rfl, rfl⟩
  | some v =>
    rw [unclaim]
    split <;> exact ⟨rfl, rfl⟩

/-- A connection can be had, and the table of context keys is there. -/
def Open (d : Relational) : Prop := d.CanTake ∧ (d.tables.rows .contextKeys).isSome

/-- The rows of context keys. -/
def keyRows (d : Relational) : List Record := (d.tables.rows .contextKeys).getD []

/-- What a transaction makes of the rows: those it sees, which are those of the database unless it
changed something. -/
def Holds (d : Relational) (t : Transaction) (l : List Record) : Prop :=
  d.closed = false ∧
    match t with
    | .active _ none => d.tables.rows .contextKeys = some l
    | .active _ (some v) =>
      v.tables.rows .contextKeys = some l ∧
        (v.changed = false → d.tables.rows .contextKeys = some l)
    | .finished => False

theorem query_open {d : Relational} (h : d.Open) (customer : String) :
    d.query .selectContextKeys [customer] = (d.keyRows.filter (isOf customer)).map scan := by
  obtain ⟨hcan, hsome⟩ := h
  obtain ⟨count, d', htake, -, -⟩ := take_ok hcan
  obtain ⟨l, hl⟩ := Option.isSome_iff_exists.1 hsome
  -- nothing is equal to NULL, but the name of a customer realm is a text
  have hfilter : (l.filter fun r => Tables.matchesCell r 3 (Tables.param [customer] 0)) =
      l.filter (isOf customer) := by
    refine List.filter_congr fun r _ => ?_
    rw [Bool.eq_iff_iff]
    show (Cell.text customer != .null && r.cell 3 == .text customer) = true ↔
      ((r.cell 3).text? == some customer) = true
    rw [beq_iff_eq, Cell.text?_eq_some]
    simp
  have hquery : d.tables.query .selectContextKeys [customer] =
      (l.filter fun r => Tables.matchesCell r 3 (Tables.param [customer] 0)).map
        keyColumns.row := by
    simp only [Tables.query, Tables.selection?, Tables.rowsOf, hl]
    rfl
  rw [query, htake, keyRows, hl]
  simp only [hquery, hfilter]
  rfl

theorem query_failing {d : Relational} (h : ¬ d.Open) (customer : String) :
    ∃ f, .error (.database f) ∈ d.query .selectContextKeys [customer] := by
  by_cases hcan : d.CanTake
  · obtain ⟨count, d', htake, -, -⟩ := take_ok hcan
    rcases d.tables.rowsOf_cases .contextKeys with ⟨e, hrows, he, -⟩ | ⟨l, -, hl⟩
    · have hquery : d.tables.query .selectContextKeys [customer] = [.error (.ofDriver e)] := by
        simp only [Tables.query, Tables.selection?, hrows]
      rw [query, htake]
      simp only [hquery, ofDriver_eq he]
      exact ⟨_, List.mem_cons_self⟩
    · exact absurd ⟨hcan, by rw [hl]; rfl⟩ h
  · -- without a connection the fault is the only row
    obtain ⟨e, htake, he⟩ := take_error hcan
    rw [query, htake]
    simp only [ofDriver_eq he]
    exact ⟨_, List.mem_cons_self⟩

/-- A transaction begins if a connection can be had. -/
theorem begin_cases (d : Relational) :
    (∃ f, d.begin = (.error (.database (.noBegin f)), d)) ∨
      ∃ count d', d.begin = (.ok (.active count none), d') ∧ d'.tables = d.tables ∧
        d'.closed = false := by
  rw [begin]
  by_cases hcan : d.CanTake
  · obtain ⟨count, d', htake, htables, hclosed⟩ := take_ok hcan
    rw [htake]
    exact .inr ⟨count, d', rfl, htables, hclosed⟩
  · obtain ⟨f, htake, -⟩ := take_error hcan
    rw [htake]
    exact .inl ⟨f, rfl⟩

theorem release_eq (d : Relational) (t : Transaction) :
    (d.release t).tables = d.tables ∧ (d.release t).closed = d.closed := by
  cases t with
  | finished => exact ⟨rfl, rfl⟩
  | active count v => exact unclaim_eq d v

/-- A connection that is given back can be taken again. -/
theorem canTake_release {d : Relational} (h : d.closed = false) (count : Nat) (v : Option View) :
    (d.release (.active count v)).CanTake :=
  ⟨(unclaim_eq d v).2.trans h, .inl (List.append_ne_nil_of_right_ne_nil _ (List.cons_ne_nil _ _))⟩

/-- A change of context keys in a transaction is done to what the transaction sees. -/
theorem execute_eq {d : Relational} {count : Nat} {before : Option View} {l : List Record}
    (h : (before.getD d.view).tables.rows .contextKeys = some l) (c : Change) :
    d.execute (.active count before) c.statement c.params =
      d.changeIn before (before.getD d.view) c.statement c.params := by
  have htable : c.statement.table = .contextKeys := by cases c <;> rfl
  have hquery : c.statement.isQuery = false := by cases c <;> rfl
  simp only [execute, htable, hquery, Tables.rowsOf, h]
  rfl

theorem rows_view {d : Relational} {count : Nat} {before : Option View} {l : List Record}
    (h : d.Holds (.active count before) l) :
    (before.getD d.view).tables.rows .contextKeys = some l ∧
      ((before.getD d.view).changed = false → d.tables.rows .contextKeys = some l) := by
  cases before with
  | none => exact ⟨h.2, fun _ => h.2⟩
  | some v => exact h.2

/-- A change in a transaction is refused, or it is done to what the transaction sees. -/
theorem execute_cases {d : Relational} {t : Transaction} {l : List Record} (h : d.Holds t l)
    (c : Change) :
    (∃ e t' d', d.execute t c.statement c.params = (.error (.database e), t', d') ∧
      d'.tables = d.tables) ∨
    ∃ n t' d', d.execute t c.statement c.params = (.ok n, t', d') ∧ d'.tables = d.tables ∧
      d'.Holds t' (c.onRows l) := by
  cases t with
  -- a transaction that is over holds nothing
  | finished => exact h.2.elim
  | active count before =>
    have hview := rows_view h
    have hclosed := h.1
    rw [execute_eq hview.1 c, changeIn]
    rcases claim_cases d (before.getD d.view) with
      ⟨e, hclaim, he⟩ | ⟨v, d', hclaim, hv, hchanged, htables, hclosed'⟩
    · rw [hclaim]
      simp only [ofDriver_eq he]
      exact .inl ⟨_, _, _, rfl, rfl⟩
    · rw [hclaim]
      rw [← hv, ← hchanged] at hview
      rcases Tables.change_cases hview.1 c with ⟨e, hchange, he⟩ | ⟨n, t', hchange, ht, hn⟩
      · simp only [hchange, ofDriver_eq he]
        exact .inl ⟨_, _, _, rfl, htables⟩
      · simp only [hchange]
        refine .inr ⟨_, _, _, rfl, htables, hclosed'.trans hclosed, ht, fun hfalse => ?_⟩
        -- as long as no row was changed the rows are those of the database
        rw [Bool.or_eq_false_iff] at hfalse
        have hzero : n = 0 := by simpa using hfalse.2
        rw [htables, hn hzero]
        exact hview.2 hfalse.1

/-- A commit is refused, or it makes the rows of the transaction those of the database. -/
theorem commit_cases {d : Relational} {t : Transaction} {l : List Record} (h : d.Holds t l) :
    (∃ e t' d', d.commit t = (.error (.database e), t', d') ∧ d'.tables = d.tables) ∨
    ∃ d', d.commit t = (.ok (), .finished, d') ∧ d'.tables.rows .contextKeys = some l ∧
      d'.CanTake := by
  obtain ⟨hclosed, h⟩ := h
  cases t with
  | finished => exact h.elim
  | active count before =>
    have hcan := canTake_release hclosed count before
    cases before with
    | none =>
      refine .inr ⟨_, rfl, ?_, hcan⟩
      rw [(release_eq d _).1]
      exact h
    | some v =>
      rw [commit]
      split
      next hunchanged =>
        -- nothing is stored, and nothing has to be
        refine .inr ⟨_, rfl, ?_, hcan⟩
        rw [(release_eq d _).1]
        exact h.2 (by simpa using hunchanged)
      -- what was changed is stored unless a reference to it is broken
      split
      · exact .inr ⟨_, rfl, h.1, hcan⟩
      · exact .inl ⟨_, _, _, rfl, (release_eq d _).1⟩

/-- Nobody writes, and the context keys are not guarded. -/
def Calm (d : Relational) : Prop := d.writing = false ∧ d.tables.Unguarded

/-- A transaction may write, and the context keys that it sees are not guarded. -/
def Serves (d : Relational) : Transaction → Prop
  | .active _ none => d.Calm
  | .active _ (some v) => v.writing = true ∧ v.tables.Unguarded
  | .finished => False

theorem claim_serves {d : Relational} {count : Nat} {before : Option View}
    (h : d.Serves (.active count before)) :
    ∃ v d', d.claim (before.getD d.view) = .ok (v, d') ∧ v.writing = true ∧
      v.tables = (before.getD d.view).tables ∧ v.tables.Unguarded := by
  cases before with
  | none =>
    -- it begins to see the tables with this statement, so what it sees is the latest
    refine ⟨{ d.view with writing := true }, { d with writing := true }, ?_, rfl, rfl, h.2⟩
    show d.claim d.view = _
    rw [claim, if_neg (show ¬ (d.view.writing = true) from Bool.false_ne_true),
      if_neg (Bool.eq_false_iff.1 h.1), if_neg fun hne => hne rfl]
  | some v => exact ⟨v, d, if_pos h.1, h.1, rfl, h.2⟩

theorem begin_calm {d : Relational} (hopen : d.Open) (h : d.Calm) :
    ∃ t d', d.begin = (.ok t, d') ∧ d'.Serves t := by
  obtain ⟨count, d', htake, htables, -⟩ := take_ok hopen.1
  have hwriting := writing_take htake
  refine ⟨.active count none, d', ?_, hwriting.trans h.1, htables ▸ h.2⟩
  rw [begin, htake]

theorem execute_calm {d : Relational} {t : Transaction} {l : List Record} {c : Change}
    (hl : d.Holds t l) (h : d.Serves t) :
    ∃ n t' d', d.execute t c.statement c.params = (.ok n, t', d') ∧ d'.Serves t' := by
  cases t with
  | finished => exact h.elim
  | active count before =>
    have hrows := (rows_view hl).1
    obtain ⟨v, d', hclaim, hwriting, htables, hunguarded⟩ := claim_serves h
    have hview := hrows
    rw [← htables] at hview
    obtain ⟨n, t', hchange, ht⟩ := Tables.change_unguarded hview hunguarded c
    refine ⟨n, .active n (some { v with tables := t', changed := v.changed || n != 0 }), d', ?_,
      hwriting, ht⟩
    rw [execute_eq hrows c, changeIn, hclaim]
    simp only [hchange]

theorem commit_calm {d : Relational} {t : Transaction} (h : d.Serves t) :
    ∃ t' d', d.commit t = (.ok (), t', d') := by
  cases t with
  | finished => exact h.elim
  | active count before =>
    cases before with
    | none => exact ⟨_, _, rfl⟩
    | some v =>
      have hpins : v.tables.keepsPins = true := by
        rw [Tables.keepsPins, h.2.2.2]
        rfl
      rw [commit, hpins]
      split <;> exact ⟨_, _, rfl⟩

/-- A database with one connection and some context keys, which nothing guards. -/
def storing (keys : List ContextKey) : Relational :=
  opened 1 (Tables.empty.setRows .contextKeys (keys.map ofKey))

theorem open_storing (keys : List ContextKey) : (storing keys).Open :=
  ⟨⟨rfl, .inl (List.cons_ne_nil _ _)⟩, rfl⟩

theorem calm_storing (keys : List ContextKey) : (storing keys).Calm := ⟨rfl, rfl, rfl, rfl⟩

theorem keyRows_congr {d d' : Relational} (h : d'.tables = d.tables) : d'.keyRows = d.keyRows := by
  rw [keyRows, keyRows, h]

end Relational

end Store

instance instTabularRelational : Tabular Relational Relational.Transaction Record where
  rows := Relational.keyRows
  Open := Relational.Open
  Holds := Relational.Holds
  query_open := Relational.query_open
  query_failing := Relational.query_failing
  begin_error := by
    intro db e db' h
    rcases Relational.begin_cases db with ⟨f, heq⟩ | ⟨count, d', heq, -, -⟩
    · cases heq.symm.trans h
      exact ⟨⟨_, rfl⟩, rfl⟩
    · cases heq.symm.trans h
  begin_ok := by
    intro db t db' hopen h
    rcases Relational.begin_cases db with ⟨f, heq⟩ | ⟨count, d', heq, htables, hclosed⟩
    · cases heq.symm.trans h
    · cases heq.symm.trans h
      obtain ⟨l, hl⟩ := Option.isSome_iff_exists.1 hopen.2
      refine ⟨Relational.keyRows_congr htables, hclosed, ?_⟩
      show db'.tables.rows .contextKeys = some db.keyRows
      rw [htables, Relational.keyRows, hl]
      rfl
  execute_error := by
    intro db t l e t' db' c hl h
    rcases Relational.execute_cases hl c with ⟨f, t₁, d₁, heq, htables⟩ | ⟨n, t₁, d₁, heq, -, -⟩
    · cases heq.symm.trans h
      exact ⟨⟨f, rfl⟩, Relational.keyRows_congr htables⟩
    · cases heq.symm.trans h
  execute_ok := by
    intro db t l n t' db' c hl h
    rcases Relational.execute_cases hl c with ⟨f, t₁, d₁, heq, -⟩ | ⟨n, t₁, d₁, heq, htables, hnext⟩
    · cases heq.symm.trans h
    · cases heq.symm.trans h
      exact ⟨Relational.keyRows_congr htables, hnext⟩
  commit_error := by
    intro db t l e t' db' hl h
    rcases Relational.commit_cases hl with ⟨f, t₁, d₁, heq, htables⟩ | ⟨d₁, heq, -, -⟩
    · cases heq.symm.trans h
      exact ⟨⟨f, rfl⟩, Relational.keyRows_congr htables⟩
    · cases heq.symm.trans h
  commit_ok := by
    intro db t l t' db' hl h
    rcases Relational.commit_cases hl with ⟨f, t₁, d₁, heq, -⟩ | ⟨d₁, heq, hrows, hcan⟩
    · cases heq.symm.trans h
    · cases heq.symm.trans h
      refine ⟨?_, hcan, ?_⟩
      · show (db'.tables.rows .contextKeys).getD [] = l
        rw [hrows]
        rfl
      · show (db'.tables.rows .contextKeys).isSome = true
        rw [hrows]
        rfl
  rows_release db t := Relational.keyRows_congr (Relational.release_eq db t).1
  Calm := Relational.Calm
  Serves := Relational.Serves
  begin_calm := Relational.begin_calm
  execute_calm := Relational.execute_calm
  commit_calm _ := Relational.commit_calm

end RealmRegistry
