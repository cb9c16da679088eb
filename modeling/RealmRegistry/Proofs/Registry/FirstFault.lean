/-
The context keys of a customer realm are read as a whole, or the first fault is the answer.

Rows come one after the other, and what comes may be a fault instead of a row.  The first one that
is no context key ends the reading; what was read before it is given up.  A row is looked at in a
fixed order: the number of its columns, the columns from left to right, the text in the last one.

* `Row.Breaks` — what is wrong with a row, told without reading it;
* `readRows_eq_error_iff` — the first of some rows that cannot be read, or else what comes behind
  them;
* `Memory.FirstFault` — which fault that is, for a database with any rows and any failures;
* `contextKeys_whole_or_first_fault` — what is read.
-/
import Mathlib.Data.Nat.Find
import RealmRegistry.Proofs.Registry.Integrity

namespace RealmRegistry

open Schema Store

/-! ### Rows that are no context keys -/

/-- The columns of a context key, by name. -/
def ContextKey.columnNames : List String :=
  ["id", "label", "identities_realm", "customer_realm", "configuration"]

/-- What is wrong with a row of a context key. -/
inductive Store.Row.Breaks (r : Row) : Fault → Prop
  /-- it has too few columns or too many, -/
  | count (hcount : r.columns.length ≠ 5) : r.Breaks (.row (.wrongCount 5 r.columns.length))
  /-- or else a column is NULL and none before it is, -/
  | null {i : Nat} {name : String} (hcount : r.columns.length = 5)
      (hname : ContextKey.columnNames[i]? = some name) (hnull : r.columns[i]? = some none)
      (hbefore : ∀ j < i, r.columns[j]? ≠ some none) : r.Breaks (.row (.null name i))
  /-- or else no settings are in the last one. -/
  | settings {stored : String} {complaint : Complaint} (hcount : r.columns.length = 5)
      (hnull : ∀ c ∈ r.columns, c ≠ none) (hstored : r.text? 4 = some stored)
      (hread : decode ContextKeyConfiguration stored = .error complaint) :
      r.Breaks (.malformed complaint)

namespace Store.Row

/-- Something is wrong with each row that is not complete. -/
theorem complete_or_breaks (r : Row) : r.Complete ∨ ∃ e, r.Breaks e := by
  by_cases hcount : r.columns.length = 5
  · by_cases hnull : ∃ i : Nat, r.columns[i]? = some none
    · -- the first column that is NULL has a name
      let first := Nat.find hnull
      have hfirst : r.columns[first]? = some none := Nat.find_spec hnull
      have hlt : first < ContextKey.columnNames.length := by
        have hbound := (List.getElem?_eq_some_iff.1 hfirst).1
        rwa [hcount] at hbound
      exact .inr ⟨_, .null hcount (List.getElem?_eq_getElem hlt) hfirst
        fun j hj => Nat.find_min hnull hj⟩
    · have hnone : ∀ c ∈ r.columns, c ≠ none := by
        rintro c hc rfl
        exact hnull (List.mem_iff_getElem?.1 hc)
      obtain ⟨_, _, _, _, stored, rfl⟩ := Row.exists_texts hcount hnone
      cases hread : decode ContextKeyConfiguration stored with
      | error complaint => exact .inr ⟨_, .settings rfl hnone rfl hread⟩
      | ok config => exact .inl ⟨rfl, hnone, stored, config, rfl, hread⟩
  · exact .inr ⟨_, .count hcount⟩

/-- What is wrong with a row is the fault that reading it gives. -/
theorem Breaks.ofRow {r : Row} {e : Fault} (h : r.Breaks e) : ContextKey.ofRow r = .error e := by
  cases h with
  | count hcount =>
    rw [ContextKey.ofRow, expectColumns, if_neg hcount]
    rfl
  | null hcount hname hnull hbefore =>
    rename_i i name
    have htext (j : Nat) (hj : j < i) {c : Option String} (hc : r.columns[j]? = some c) :
        ∃ text, c = some text :=
      Option.ne_none_iff_exists'.1 fun hnone => hbefore j hj (hnone ▸ hc)
    obtain ⟨_, _, _, _, _, rfl⟩ := Row.exists_columns hcount
    -- all columns before this one are texts
    rcases i with _ | _ | _ | _ | _ | i <;> cases hname <;> cases hnull
    · rfl
    · obtain ⟨_, rfl⟩ := htext 0 (by decide) rfl
      rfl
    · obtain ⟨_, rfl⟩ := htext 0 (by decide) rfl
      obtain ⟨_, rfl⟩ := htext 1 (by decide) rfl
      rfl
    · obtain ⟨_, rfl⟩ := htext 0 (by decide) rfl
      obtain ⟨_, rfl⟩ := htext 1 (by decide) rfl
      obtain ⟨_, rfl⟩ := htext 2 (by decide) rfl
      rfl
    · obtain ⟨_, rfl⟩ := htext 0 (by decide) rfl
      obtain ⟨_, rfl⟩ := htext 1 (by decide) rfl
      obtain ⟨_, rfl⟩ := htext 2 (by decide) rfl
      obtain ⟨_, rfl⟩ := htext 3 (by decide) rfl
      rfl
  | settings hcount hnull hstored hread =>
    rename_i stored complaint
    obtain ⟨_, _, _, _, e, rfl⟩ := Row.exists_texts hcount hnull
    obtain rfl : e = stored := Option.some.inj hstored
    show (ofText (decode ContextKeyConfiguration e) >>= _) = _
    rw [hread]
    rfl

theorem ofRow_eq_error_iff {r : Row} {e : Fault} :
    ContextKey.ofRow r = .error e ↔ r.Breaks e := by
  refine ⟨fun h => ?_, Breaks.ofRow⟩
  rcases r.complete_or_breaks with hcomplete | ⟨e', hbreaks⟩
  · obtain ⟨k, hk⟩ := complete_iff.1 hcomplete
    cases hk.symm.trans h
  · cases hbreaks.ofRow.symm.trans h
    exact hbreaks

end Store.Row

/-! ### Rows that come one after the other -/

section Rows

variable {α : Type} {f : Row → Except Fault α} {e : Fault}

theorem readRows_cons_of_ok {row : Row} {a : α} (h : f row = .ok a)
    (items : List (Except Fault Row)) :
    readRows f (.ok row :: items) = (readRows f items).map (a :: ·) := by
  rw [readRows, h]

/-- Reading ends at the first row that cannot be read, or else as what comes behind the rows is
read. -/
theorem readRows_eq_error_iff {rows : List Row} {rest : List (Except Fault Row)} :
    readRows f (rows.map .ok ++ rest) = .error e ↔
      (∃ before row after, rows = before ++ row :: after ∧ (∀ r ∈ before, ∃ a, f r = .ok a) ∧
        f row = .error e) ∨
      ((∀ r ∈ rows, ∃ a, f r = .ok a) ∧ readRows f rest = .error e) := by
  induction rows with
  | nil => simp
  | cons r rows ih =>
    rw [List.map_cons, List.cons_append]
    cases hr : f r with
    | error e' =>
      -- nothing can come before this row
      have hread : readRows f (.ok r :: (rows.map .ok ++ rest)) = .error e' := by
        rw [readRows, hr]
      rw [hread]
      constructor
      · rintro ⟨⟩
        exact .inl ⟨[], r, rows, rfl, fun _ h => absurd h List.not_mem_nil, hr⟩
      · rintro (⟨before, row, after, heq, hbefore, hrow⟩ | ⟨hall, -⟩)
        · cases before with
          | nil =>
            obtain ⟨rfl, -⟩ := List.cons.inj heq
            cases hr.symm.trans hrow
            rfl
          | cons s before =>
            obtain ⟨rfl, -⟩ := List.cons.inj heq
            obtain ⟨a, ha⟩ := hbefore r List.mem_cons_self
            cases hr.symm.trans ha
        · obtain ⟨a, ha⟩ := hall r List.mem_cons_self
          cases hr.symm.trans ha
    | ok a =>
      rw [readRows_cons_of_ok hr, map_eq_error, ih]
      constructor
      · rintro (⟨before, row, after, rfl, hbefore, hrow⟩ | ⟨hall, hrest⟩)
        · exact .inl ⟨r :: before, row, after, rfl, List.forall_mem_cons.2 ⟨⟨a, hr⟩, hbefore⟩, hrow⟩
        · exact .inr ⟨List.forall_mem_cons.2 ⟨⟨a, hr⟩, hall⟩, hrest⟩
      · rintro (⟨before, row, after, heq, hbefore, hrow⟩ | ⟨hall, hrest⟩)
        · cases before with
          | nil =>
            obtain ⟨rfl, -⟩ := List.cons.inj heq
            cases hr.symm.trans hrow
          | cons s before =>
            obtain ⟨rfl, rfl⟩ := List.cons.inj heq
            exact .inl ⟨before, row, after, rfl, (List.forall_mem_cons.1 hbefore).2, hrow⟩
        · exact .inr ⟨(List.forall_mem_cons.1 hall).2, hrest⟩

end Rows

/-- The beginning of a list is cut off behind one of its elements or before it. -/
theorem take_eq_append_cons_iff {α : Type} {l before : List α} {a : α} {n : Nat} :
    (∃ after, l.take n = before ++ a :: after) ↔
      (∃ after, l = before ++ a :: after) ∧ before.length < n := by
  constructor
  · rintro ⟨after, h⟩
    refine ⟨⟨after ++ l.drop n, ?_⟩, ?_⟩
    · rw [← List.cons_append, ← List.append_assoc, ← h, List.take_append_drop]
    · have hlength := congrArg List.length h
      rw [List.length_take, List.length_append, List.length_cons] at hlength
      omega
  · rintro ⟨⟨after, rfl⟩, hlt⟩
    obtain ⟨m, rfl⟩ : ∃ m, n = before.length + (m + 1) := ⟨n - before.length - 1, by omega⟩
    exact ⟨after.take m, by rw [List.take_length_add_append, List.take_succ_cons]⟩

/-! ### In memory -/

namespace Store.Memory

/-- The first thing that is wrong when the context keys of a customer realm are asked for. -/
inductive FirstFault (m : Memory) (customer : String) : Fault → Prop
  /-- The query fails, -/
  | query {text : String} (hquery : m.failure .selectContextKeys = some text) :
      m.FirstFault customer (.database (.reported text))
  /-- or something is wrong with a row which the query gets to, and with none before it, -/
  | row {before after : List Row} {r : Row} {e : Fault}
      (hquery : m.failure .selectContextKeys = none)
      (hrows : m.contextKeysOf customer = before ++ r :: after)
      (hbefore : ∀ s ∈ before, s.Complete)
      (hreached : ∀ n text, m.iterationFailure .selectContextKeys = some (n, text) →
        before.length < n)
      (hbreaks : r.Breaks e) : m.FirstFault customer e
  /-- or the query fails after so many rows, or after all of them if there are fewer. -/
  | iteration {n : Nat} {text : String} (hquery : m.failure .selectContextKeys = none)
      (hiteration : m.iterationFailure .selectContextKeys = some (n, text))
      (hrows : ∀ r ∈ (m.contextKeysOf customer).take n, r.Complete) :
      m.FirstFault customer (.database (.reported text))

variable {m : Memory} {scope : Access.Scope} {customer : String} {e : Fault}

theorem contextKeysOf_eq (m : Memory) (customer : String) :
    m.contextKeysOf customer =
      m.contextKeys.filter fun r => decide (r.columns[3]? = some (some customer)) := by
  refine List.filter_congr fun r _ => ?_
  rw [Bool.eq_iff_iff, beq_iff_eq, decide_eq_true_eq, Row.text?, Option.join_eq_some_iff]

theorem mem_contextKeysOf {r : Row} :
    r ∈ m.contextKeysOf customer ↔
      r ∈ m.contextKeys ∧ r.columns[3]? = some (some customer) := by
  rw [contextKeysOf_eq, List.mem_filter, decide_eq_true_eq]

theorem ofRow_of_complete {rows : List Row} :
    (∀ r ∈ rows, ∃ k, ContextKey.ofRow r = .ok k) ↔ ∀ r ∈ rows, r.Complete :=
  forall₂_congr fun _ _ => Row.complete_iff.symm

/-- Reading fails with the first thing that is wrong. -/
theorem contextKeys_eq_error_iff :
    (Registry.mk m scope).contextKeys customer = .error e ↔ m.FirstFault customer e := by
  show readRows ContextKey.ofRow (m.query .selectContextKeys [customer]) = _ ↔ _
  rw [Memory.query]
  cases hquery : m.failure .selectContextKeys with
  | some text =>
    constructor
    · rintro ⟨⟩
      exact .query hquery
    · rintro (h | ⟨h, -⟩ | ⟨h, -⟩)
      · cases hquery.symm.trans h
        rfl
      · cases hquery.symm.trans h
      · cases hquery.symm.trans h
  | none =>
    -- The query is answered: what is read is every row, or those before the iteration breaks.
    simp only [Memory.rowsFor, List.headD_cons]
    cases hiteration : m.iterationFailure .selectContextKeys with
    | none =>
      have hread := @readRows_eq_error_iff _ ContextKey.ofRow e (m.contextKeysOf customer) []
      rw [List.append_nil] at hread
      refine hread.trans ⟨?_, ?_⟩
      · rintro (⟨before, row, after, hrows, hbefore, hrow⟩ | ⟨-, ⟨⟩⟩)
        exact .row hquery hrows (ofRow_of_complete.1 hbefore)
          (fun n text h => by cases hiteration.symm.trans h) (Row.ofRow_eq_error_iff.1 hrow)
      · rintro (h | ⟨-, hrows, hbefore, -, hbreaks⟩ | ⟨-, h, -⟩)
        · cases hquery.symm.trans h
        · exact .inl ⟨_, _, _, hrows, ofRow_of_complete.2 hbefore, hbreaks.ofRow⟩
        · cases hiteration.symm.trans h
    | some failure =>
      obtain ⟨n, text⟩ := failure
      refine readRows_eq_error_iff.trans ⟨?_, ?_⟩
      -- A row that is read among the first `n` is a row of the table before position `n`.
      · rintro (⟨before, row, after, hrows, hbefore, hrow⟩ | ⟨hall, ⟨⟩⟩)
        · obtain ⟨⟨after', hrows'⟩, hlt⟩ := take_eq_append_cons_iff.1 ⟨after, hrows⟩
          refine .row hquery hrows' (ofRow_of_complete.1 hbefore) (fun n' text' h => ?_)
            (Row.ofRow_eq_error_iff.1 hrow)
          cases hiteration.symm.trans h
          exact hlt
        · exact .iteration hquery hiteration (ofRow_of_complete.1 hall)
      · rintro (h | ⟨-, hrows, hbefore, hreached, hbreaks⟩ | ⟨-, h, hall⟩)
        · cases hquery.symm.trans h
        · obtain ⟨after', hrows'⟩ :=
            take_eq_append_cons_iff.2 ⟨⟨_, hrows⟩, hreached n text hiteration⟩
          exact .inl ⟨_, _, after', hrows', ofRow_of_complete.2 hbefore, hbreaks.ofRow⟩
        · cases hiteration.symm.trans h
          exact .inr ⟨ofRow_of_complete.2 hall, rfl⟩

end Store.Memory

/-- A row has the columns of a context key, and a text of its settings in the last one. -/
def ContextKey.IsIn (r : Row) (k : ContextKey) : Prop :=
  ∃ stored, r = .ofTexts [k.id, k.label, k.identitiesRealm, k.customerRealm, stored] ∧
    decode ContextKeyConfiguration stored = .ok k.config

/-- What comes of asking a database for the context keys of a customer realm. -/
structure WholeOrFirstFault (m : Memory) (customer : String)
    (result : Except Fault (List ContextKey)) : Prop where
  /-- There is a result exactly if the query is not made to fail and each row of the customer realm
  has five columns, none of them NULL and the last with settings in it; -/
  ok_iff : (∃ keys, result = .ok keys) ↔
    m.failure .selectContextKeys = none ∧ m.iterationFailure .selectContextKeys = none ∧
      ∀ r ∈ m.contextKeys, r.columns[3]? = some (some customer) → r.Complete
  /-- then it has one key for each of these rows, in their order; -/
  keys : ∀ keys, result = .ok keys →
    List.Forall₂ ContextKey.IsIn
      (m.contextKeys.filter fun r => decide (r.columns[3]? = some (some customer))) keys
  /-- otherwise it is the first fault, -/
  fault : ∀ e, result = .error e ↔ m.FirstFault customer e
  /-- and this is never that a column is not there. -/
  inBounds : ∀ column index size, result ≠ .error (.row (.outOfBounds column index size))

/-- Whatever rows a database has and whatever is made to fail in it, the context keys of a customer
realm are read as a whole, or the first fault is the answer. -/
theorem contextKeys_whole_or_first_fault (m : Memory) (scope : Access.Scope) (customer : String) :
    WholeOrFirstFault m customer ((Registry.mk m scope).contextKeys customer) where
  ok_iff := by
    constructor
    · rintro ⟨keys, h⟩
      obtain ⟨⟨hquery, hiteration⟩, hread⟩ := contextKeys_ok_iff.1 h
      refine ⟨hquery, hiteration, fun r hr hcustomer => Row.complete_iff.2 ?_⟩
      have hmem : r ∈ m.contextKeysOf customer := Memory.mem_contextKeysOf.2 ⟨hr, hcustomer⟩
      obtain ⟨k, -, hk⟩ := KeyRow.exists_read_of_mem hread hmem
      exact ⟨k, hk⟩
    · rintro ⟨hquery, hiteration, hrows⟩
      have hcomplete : ∀ r ∈ m.contextKeysOf customer, r.Complete := fun r hr =>
        hrows r (Memory.mem_contextKeysOf.1 hr).1 (Memory.mem_contextKeysOf.1 hr).2
      have hread : ∀ r ∈ m.contextKeysOf customer, ∃ k, KeyRow.read r = .ok k :=
        Memory.ofRow_of_complete.2 hcomplete
      obtain ⟨keys, hkeys⟩ := exists_keys_of_read hread
      have hopen : m.Open := ⟨hquery, hiteration⟩
      exact ⟨keys, contextKeys_ok_iff.2 ⟨hopen, hkeys⟩⟩
  keys := by
    intro keys h
    obtain ⟨-, hread⟩ := contextKeys_ok_iff.1 h
    rw [← Memory.contextKeysOf_eq]
    have hall : List.Forall₂ (fun r k => ContextKey.ofRow r = .ok k) (m.contextKeysOf customer)
        keys := by
      have heq := List.forall₂_eq_eq_eq ▸ hread
      exact List.forall₂_map_right_iff.1 (List.forall₂_map_left_iff.1 heq)
    exact hall.imp fun r k hk => ContextKey.ofRow_eq_ok_iff.1 hk
  fault e := Memory.contextKeys_eq_error_iff
  inBounds := by
    intro column index size h
    rcases Memory.contextKeys_eq_error_iff.1 h with _ | ⟨-, -, -, -, hbreaks⟩ | _
    cases hbreaks

/-- The query is to fail after two rows of the realm, but in the second one two columns are NULL,
and there are no settings in it either; the row of another realm is not looked at. -/
example :
    let m : Memory :=
      { Memory.empty with
        contextKeys := [.ofTexts ["A", "label", "people", "acme", "\x7b\x7d"],
          .ofTexts ["B", "label", "people", "other", "["],
          ⟨[some "C", none, none, some "acme", some "["]⟩]
        iterationFailure := fun _ => some (2, "cursor lost") }
    (Registry.ofDatabase m).contextKeys "acme" = .error (.row (.null "label" 1)) := by
  decide +kernel

end RealmRegistry
