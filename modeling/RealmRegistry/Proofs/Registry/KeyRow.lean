/-
Rows in which context keys are stored, and what changes do to a table of them.

A database may make its rows of anything as long as it can say what a query gives of each
(`KeyRow`).  A deletion goes by the identifier; putting in a key goes over the first row with its
identifier or to the end of the table.

* `KeyRow.read` — the context key of a row, or the fault that reading it gives;
* `readRows_scan` — rows are read as a whole or not at all;
* `distinctIds_applied` — no change gives two rows the same identifier.
-/
import RealmRegistry.Proofs.Realm.ContextKey
import RealmRegistry.Registry.Replacement

namespace RealmRegistry

open Schema Store

/-! ### Rows -/

/-- Rows in which context keys are stored. -/
class KeyRow (ρ : Type) where
  /-- what a query gives of a row -/
  scan : ρ → Except Fault Row
  id : ρ → Option String
  customer : ρ → Option String
  ofKey : ContextKey → ρ
  scan_ofKey : ∀ k, scan (ofKey k) = .ok (.ofTexts k.columns)
  id_of_scan : ∀ {r row}, scan r = .ok row → id r = row.text? 0
  customer_of_scan : ∀ {r row}, scan r = .ok row → customer r = row.text? 3

namespace KeyRow

variable {ρ : Type} [KeyRow ρ]

/-- The context key of a row. -/
def read (r : ρ) : Except Fault ContextKey := scan r >>= ContextKey.ofRow

theorem read_eq_ok {r : ρ} {k : ContextKey} :
    read r = .ok k ↔ ∃ row, scan r = .ok row ∧ ContextKey.ofRow row = .ok k :=
  bind_eq_ok

@[simp] theorem read_ofKey (k : ContextKey) : read (ofKey k : ρ) = .ok k :=
  read_eq_ok.2 ⟨_, scan_ofKey k, ContextKey.ofRow_columns k⟩

theorem id_of_read {r : ρ} {k : ContextKey} (h : read r = .ok k) : id r = some k.id := by
  obtain ⟨row, hscan, hrow⟩ := read_eq_ok.1 h
  obtain ⟨stored, rfl, -⟩ := ContextKey.ofRow_eq_ok_iff.1 hrow
  exact id_of_scan hscan

theorem customer_of_read {r : ρ} {k : ContextKey} (h : read r = .ok k) :
    customer r = some k.customerRealm := by
  obtain ⟨row, hscan, hrow⟩ := read_eq_ok.1 h
  obtain ⟨stored, rfl, -⟩ := ContextKey.ofRow_eq_ok_iff.1 hrow
  exact customer_of_scan hscan

@[simp] theorem id_ofKey (k : ContextKey) : id (ofKey k : ρ) = some k.id :=
  id_of_read (read_ofKey k)

/-- Whether a row is one of a customer realm. -/
def isOf (name : String) (r : ρ) : Bool := customer r == some name

theorem isOf_iff_of_read {r : ρ} {k : ContextKey} (h : read r = .ok k) {name : String} :
    isOf name r = true ↔ k.customerRealm = name := by
  rw [isOf, customer_of_read h, beq_iff_eq]
  exact ⟨Option.some.inj, congrArg some⟩

/-- The identifiers of a table. -/
def ids (rows : List ρ) : List String := rows.filterMap id

/-- No two rows have the same identifier. -/
def DistinctIds (rows : List ρ) : Prop := (ids rows).Nodup

@[simp] theorem mem_ids {rows : List ρ} {i : String} : i ∈ ids rows ↔ ∃ r ∈ rows, id r = some i :=
  List.mem_filterMap

@[simp] theorem ids_append (l m : List ρ) : ids (l ++ m) = ids l ++ ids m := List.filterMap_append

theorem ids_cons_of_id {r : ρ} {i : String} (h : id r = some i) (rows : List ρ) :
    ids (r :: rows) = i :: ids rows :=
  List.filterMap_cons_some h

theorem ids_cons_of_none {r : ρ} (h : id r = none) (rows : List ρ) : ids (r :: rows) = ids rows :=
  List.filterMap_cons_none h

theorem DistinctIds.tail {r : ρ} {rows : List ρ} (h : DistinctIds (r :: rows)) :
    DistinctIds rows :=
  h.sublist ((List.sublist_cons_self r rows).filterMap id)

theorem DistinctIds.not_mem {r : ρ} {rows : List ρ} {i : String} (h : DistinctIds (r :: rows))
    (hr : id r = some i) : i ∉ ids rows := by
  rw [DistinctIds, ids_cons_of_id hr] at h
  exact (List.nodup_cons.1 h).1

theorem DistinctIds.filter {rows : List ρ} (h : DistinctIds rows) (p : ρ → Bool) :
    DistinctIds (rows.filter p) :=
  h.sublist (List.filter_sublist.filterMap id)

/-- A row is told by its identifier. -/
theorem DistinctIds.eq_of_id {rows : List ρ} (h : DistinctIds rows) {r s : ρ} {i : String}
    (hr : r ∈ rows) (hs : s ∈ rows) (hri : id r = some i) (hsi : id s = some i) : r = s := by
  induction rows with
  | nil => exact absurd hr List.not_mem_nil
  | cons t rows ih =>
    rcases List.mem_cons.1 hr with rfl | hr'
    · rcases List.mem_cons.1 hs with rfl | hs'
      · rfl
      · exact absurd (mem_ids.2 ⟨s, hs', hsi⟩) (h.not_mem hri)
    · rcases List.mem_cons.1 hs with rfl | hs'
      · exact absurd (mem_ids.2 ⟨r, hr', hri⟩) (h.not_mem hsi)
      · exact ih h.tail hr' hs'

/-! ### Reading rows -/

theorem readRows_cons_eq_ok {α : Type} {f : Row → Except Fault α} {item : Except Fault Row}
    {items : List (Except Fault Row)} {l : List α} :
    readRows f (item :: items) = .ok l ↔
      ∃ row a rest, item = .ok row ∧ f row = .ok a ∧ readRows f items = .ok rest ∧
        l = a :: rest := by
  constructor
  · intro h
    cases item with
    | error e => cases h
    | ok row =>
      rw [readRows] at h
      cases hrow : f row with
      | error e =>
        rw [hrow] at h
        cases h
      | ok a =>
        rw [hrow] at h
        cases hrest : readRows f items with
        | error e =>
          simp only [hrest] at h
          cases h
        | ok rest =>
          simp only [hrest] at h
          cases h
          exact ⟨row, a, rest, rfl, hrow, rfl, rfl⟩
  · rintro ⟨row, a, rest, rfl, hrow, hrest, rfl⟩
    rw [readRows, hrow]
    simp only [hrest]
    rfl

/-- Rows are read if each of them is, and then one key comes of each. -/
theorem readRows_scan {rows : List ρ} {keys : List ContextKey} :
    readRows ContextKey.ofRow (rows.map scan) = .ok keys ↔ rows.map read = keys.map .ok := by
  induction rows generalizing keys with
  | nil =>
    constructor
    · intro h
      cases h
      rfl
    · intro h
      rw [List.map_eq_nil_iff.1 h.symm]
      rfl
  | cons r rows ih =>
    rw [List.map_cons, List.map_cons, readRows_cons_eq_ok]
    constructor
    · rintro ⟨row, k, rest, hscan, hrow, hrest, rfl⟩
      rw [List.map_cons, ih.1 hrest, read_eq_ok.2 ⟨row, hscan, hrow⟩]
    · intro h
      cases keys with
      | nil => cases h
      | cons k keys =>
        obtain ⟨hr, hrows⟩ := List.cons.inj h
        obtain ⟨row, hscan, hrow⟩ := read_eq_ok.1 hr
        exact ⟨row, k, keys, hscan, hrow, ih.2 hrows, rfl⟩

theorem readRows_error {α : Type} {f : Row → Except Fault α} {items : List (Except Fault Row)}
    {e : Fault} (h : .error e ∈ items) (l : List α) : readRows f items ≠ .ok l := by
  induction items generalizing l with
  | nil => exact absurd h List.not_mem_nil
  | cons item items ih =>
    intro hread
    obtain ⟨row, a, rest, rfl, -, hrest, -⟩ := readRows_cons_eq_ok.1 hread
    rcases List.mem_cons.1 h with heq | h
    · cases heq
    · exact ih h rest hrest

/-- The rows of which keys were read. -/
theorem exists_read_of_mem {rows : List ρ} {keys : List ContextKey}
    (h : rows.map read = keys.map .ok) {r : ρ} (hr : r ∈ rows) : ∃ k ∈ keys, read r = .ok k := by
  have hmem : read r ∈ keys.map .ok := h ▸ List.mem_map_of_mem hr
  obtain ⟨k, hk, heq⟩ := List.mem_map.1 hmem
  exact ⟨k, hk, heq.symm⟩

theorem exists_row_of_mem {rows : List ρ} {keys : List ContextKey}
    (h : rows.map read = keys.map .ok) {k : ContextKey} (hk : k ∈ keys) :
    ∃ r ∈ rows, read r = .ok k := by
  have hmem : .ok k ∈ rows.map read := h ▸ List.mem_map_of_mem hk
  exact List.mem_map.1 hmem

theorem ids_of_read {rows : List ρ} {keys : List ContextKey}
    (h : rows.map read = keys.map .ok) : ids rows = keys.map ContextKey.id := by
  induction rows generalizing keys with
  | nil =>
    cases keys with
    | nil => rfl
    | cons k keys => cases h
  | cons r rows ih =>
    cases keys with
    | nil => cases h
    | cons k keys =>
      obtain ⟨hr, hrows⟩ := List.cons.inj h
      rw [ids_cons_of_id (id_of_read hr), List.map_cons, ih hrows]

end KeyRow

/-! ### Changes -/

open KeyRow

variable {ρ : Type} [KeyRow ρ]

/-- Puts a context key over the first row with its identifier, or at the end. -/
def putKey (k : ContextKey) : List ρ → List ρ
  | [] => [ofKey k]
  | r :: rest => if KeyRow.id r = some k.id then ofKey k :: rest else r :: putKey k rest

/-- What a change does to the rows. -/
def Change.onRows : Change → List ρ → List ρ
  | .delete i, rows => rows.filter fun r => KeyRow.id r != some i
  | .upsert k, rows => putKey k rows

/-- The rows after some changes. -/
def applied (changes : List Change) (rows : List ρ) : List ρ :=
  changes.foldl (fun rows c => c.onRows rows) rows

@[simp] theorem applied_append (l m : List Change) (rows : List ρ) :
    applied (l ++ m) rows = applied m (applied l rows) :=
  List.foldl_append

theorem putKey_of_not_mem {k : ContextKey} {rows : List ρ} (h : k.id ∉ ids rows) :
    putKey k rows = rows ++ [ofKey k] := by
  induction rows with
  | nil => rfl
  | cons r rows ih =>
    have hr : KeyRow.id r ≠ some k.id := fun hr => h (mem_ids.2 ⟨r, List.mem_cons_self, hr⟩)
    have hrows : k.id ∉ ids rows := fun hmem => by
      obtain ⟨s, hs, heq⟩ := mem_ids.1 hmem
      exact h (mem_ids.2 ⟨s, List.mem_cons_of_mem r hs, heq⟩)
    rw [putKey, if_neg hr, ih hrows, List.cons_append]

theorem putKey_of_mem {k : ContextKey} {rows : List ρ} (hrows : DistinctIds rows)
    (h : k.id ∈ ids rows) :
    putKey k rows = rows.map fun r => if KeyRow.id r = some k.id then ofKey k else r := by
  induction rows with
  | nil => exact absurd h List.not_mem_nil
  | cons r rows ih =>
    rw [putKey, List.map_cons]
    split
    next hr =>
      -- no later row has this identifier, so they all stay as they are
      have hnot := hrows.not_mem hr
      have hrest : (rows.map fun r => if KeyRow.id r = some k.id then ofKey k else r) = rows :=
        (List.map_congr_left fun s hs =>
          if_neg fun heq => hnot (mem_ids.2 ⟨s, hs, heq⟩)).trans (List.map_id rows)
      rw [hrest]
    next hr =>
      obtain ⟨s, hs, heq⟩ := mem_ids.1 h
      rcases List.mem_cons.1 hs with rfl | hs
      · exact absurd heq hr
      · rw [ih hrows.tail (mem_ids.2 ⟨s, hs, heq⟩)]

theorem ids_putKey_of_not_mem {k : ContextKey} {rows : List ρ} (h : k.id ∉ ids rows) :
    ids (putKey k rows) = ids rows ++ [k.id] := by
  rw [putKey_of_not_mem h, ids_append, ids_cons_of_id (id_ofKey k)]
  rfl

theorem ids_putKey_of_mem {k : ContextKey} {rows : List ρ} (h : k.id ∈ ids rows) :
    ids (putKey k rows) = ids rows := by
  induction rows with
  | nil => exact absurd h List.not_mem_nil
  | cons r rows ih =>
    rw [putKey]
    split
    next hr => rw [ids_cons_of_id (id_ofKey k), ids_cons_of_id hr]
    next hr =>
      have hrest : k.id ∈ ids rows := by
        obtain ⟨s, hs, heq⟩ := mem_ids.1 h
        rcases List.mem_cons.1 hs with rfl | hs
        · exact absurd heq hr
        · exact mem_ids.2 ⟨s, hs, heq⟩
      cases hr : KeyRow.id r with
      | none => rw [ids_cons_of_none hr, ids_cons_of_none hr, ih hrest]
      | some i => rw [ids_cons_of_id hr, ids_cons_of_id hr, ih hrest]

/-- A change gives no two rows the same identifier. -/
theorem distinctIds_onRows (c : Change) {rows : List ρ} (h : DistinctIds rows) :
    DistinctIds (c.onRows rows) := by
  cases c with
  | delete i => exact h.filter _
  | upsert k =>
    show (ids (putKey k rows)).Nodup
    by_cases hk : k.id ∈ ids rows
    · rw [ids_putKey_of_mem hk]
      exact h
    · rw [ids_putKey_of_not_mem hk]
      have hone : [k.id].Nodup := List.nodup_cons.2 ⟨List.not_mem_nil, .nil⟩
      refine List.nodup_append.2 ⟨h, hone, fun i hi j hj heq => hk ?_⟩
      rw [← List.mem_singleton.1 hj, ← heq]
      exact hi

theorem distinctIds_applied (changes : List Change) {rows : List ρ} (h : DistinctIds rows) :
    DistinctIds (applied changes rows) := by
  induction changes generalizing rows with
  | nil => exact h
  | cons c r ih => exact ih (distinctIds_onRows c h)

theorem mem_putKey {k : ContextKey} {rows : List ρ} {r : ρ} (h : r ∈ putKey k rows) :
    r ∈ rows ∨ r = ofKey k := by
  induction rows with
  | nil => exact .inr (List.mem_singleton.1 h)
  | cons s rows ih =>
    rw [putKey] at h
    split at h
    · rcases List.mem_cons.1 h with rfl | h
      · exact .inr rfl
      · exact .inl (List.mem_cons_of_mem s h)
    · rcases List.mem_cons.1 h with rfl | h
      · exact .inl List.mem_cons_self
      · exact (ih h).imp (List.mem_cons_of_mem s) id

/-- A row after some changes was there before or is that of a key that was put in. -/
theorem mem_applied {changes : List Change} {rows : List ρ} {r : ρ}
    (h : r ∈ applied changes rows) : r ∈ rows ∨ ∃ k, .upsert k ∈ changes ∧ r = ofKey k := by
  induction changes generalizing rows with
  | nil => exact .inl h
  | cons c changes ih =>
    rcases ih h with h | ⟨k, hk, heq⟩
    · cases c with
      | delete i => exact .inl (List.mem_filter.1 h).1
      | upsert k =>
        rcases mem_putKey h with h | heq
        · exact .inl h
        · exact .inr ⟨k, List.mem_cons_self, heq⟩
    · exact .inr ⟨k, List.mem_cons_of_mem c hk, heq⟩

end RealmRegistry
