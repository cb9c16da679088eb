/-
Context keys are read back as they were put in, and printing them loses nothing.

The rows of a customer realm after a replacement are those of the wanted keys, where identifiers
that had a row come first, in the order of the table.  So keys that were read, printed and put in
again are read once more as they were, in the same order, and nobody else's rows change.

* `filter_reconciled`, `inTable_perm` — each wanted key has one row of the customer realm;
* `inTable_of_read`, `filter_not_isOf_reconciled` — what was read keeps its order when it is put in;
* `keys_read_back` — both for registries, with either kind of database.
-/
import RealmRegistry.Proofs.Registry.Isolation

namespace RealmRegistry

open Store KeyRow Schema

section Tables

variable {ρ : Type} [KeyRow ρ]

/-! ### Wanted keys in a table -/

/-- The wanted keys as they stand in a table of old identifiers: those that are old first, in the
order of the table, and then the new ones. -/
def inTable (wanted : List ContextKey) (old : List String) : List ContextKey :=
  old.filterMap (lastKey wanted) ++ wanted.filter fun k => !old.contains k.id

theorem eraseDups_of_nodup {l : List String} (h : l.Nodup) : l.eraseDups = l := by
  induction l with
  | nil => rfl
  | cons a r ih =>
    obtain ⟨ha, hr⟩ := List.nodup_cons.1 h
    have hfilter : (r.filter fun b => !b == a) = r := by
      refine List.filter_eq_self.2 fun b hb => ?_
      simp only [Bool.not_eq_true', beq_eq_false_iff_ne]
      rintro rfl
      exact ha hb
    rw [List.eraseDups_cons, hfilter, ih hr]

/-- Of keys with different identifiers each is the last with its own. -/
theorem lastKey_of_mem {wanted : List ContextKey} (h : (wanted.map ContextKey.id).Nodup)
    {k : ContextKey} (hk : k ∈ wanted) : lastKey wanted k.id = some k := by
  induction wanted with
  | nil => exact absurd hk List.not_mem_nil
  | cons k' wanted ih =>
    obtain ⟨hnot, hnodup⟩ := List.nodup_cons.1 h
    rw [lastKey_cons]
    rcases List.mem_cons.1 hk with rfl | hk
    · have hnone : lastKey wanted k.id = none := by
        rw [← Option.not_isSome_iff_eq_none, lastKey_isSome]
        exact hnot
      rw [hnone, if_pos rfl]
      rfl
    · rw [ih hnodup hk]
      rfl

theorem filterMap_lastKey_newIds {wanted : List ContextKey}
    (h : (wanted.map ContextKey.id).Nodup) (old : List String) :
    (newIds wanted old).filterMap (lastKey wanted) =
      wanted.filter fun k => !old.contains k.id := by
  have hids : newIds wanted old =
      (wanted.filter fun k => !old.contains k.id).map ContextKey.id := by
    rw [newIds, eraseDups_of_nodup (h.filter _), List.filter_map]
    rfl
  rw [hids, List.filterMap_map]
  refine (List.filterMap_congr fun k hk => ?_).trans List.filterMap_some
  exact lastKey_of_mem h (List.mem_filter.1 hk).1

/-- Each wanted key stands in the table once, and no other does. -/
theorem inTable_perm {wanted : List ContextKey} (h : (wanted.map ContextKey.id).Nodup)
    {old : List String} (hold : old.Nodup) : (inTable wanted old).Perm wanted := by
  -- no key is the last for two identifiers
  have hnodup : (old.filterMap (lastKey wanted)).Nodup := by
    refine List.Nodup.filterMap (fun i j k hi hj => ?_) hold
    rw [← (lastKey_mem hi).2, ← (lastKey_mem hj).2]
  have hperm : (old.filterMap (lastKey wanted)).Perm
      (wanted.filter fun k => old.contains k.id) := by
    refine (List.perm_ext_iff_of_nodup hnodup ?_).2 fun k => ?_
    · exact (List.Nodup.of_map ContextKey.id h).filter _
    · rw [List.mem_filterMap, List.mem_filter, List.contains_iff_mem]
      constructor
      · rintro ⟨i, hi, hk⟩
        obtain ⟨hmem, rfl⟩ := lastKey_mem hk
        exact ⟨hmem, hi⟩
      · rintro ⟨hmem, hi⟩
        exact ⟨k.id, hi, lastKey_of_mem h hmem⟩
  exact (hperm.append_right _).trans (List.filter_append_perm _ wanted)

/-! ### The rows of the customer realm -/

theorem filterMap_lastKey_ids (wanted : List ContextKey) (rows : List ρ) :
    (ids rows).filterMap (lastKey wanted) =
      rows.filterMap fun r => (KeyRow.id r).bind (lastKey wanted) :=
  List.filterMap_filterMap

/-- The rows that stay and are of the customer realm are those of wanted keys. -/
theorem filter_renewed {customer : String} {wanted : List ContextKey}
    (hwanted : ∀ k ∈ wanted, k.customerRealm = customer) (rows : List ρ) :
    ((rows.filter (stays customer wanted)).map (renewed wanted)).filter (isOf customer) =
      ((ids rows).filterMap (lastKey wanted)).map ofKey := by
  rw [filterMap_lastKey_ids]
  induction rows with
  | nil => rfl
  | cons r rows ih =>
    cases hr : (KeyRow.id r).bind (lastKey wanted) with
    | some k =>
      -- the row is wanted, so it stays and gets content of the customer realm
      have hstays : stays customer wanted r = true := by
        rw [stays, isWanted_eq_isSome, hr, Option.isSome_some, Bool.or_true]
      have hrenewed : renewed wanted r = ofKey k := by rw [renewed, hr]
      have hof : isOf customer (ofKey k : ρ) = true :=
        isOf_ofKey_iff.2 (hwanted k (mem_of_bind_lastKey hr).1)
      rw [List.filter_cons_of_pos hstays, List.map_cons, hrenewed, List.filter_cons_of_pos hof, ih]
      simp only [List.filterMap_cons, hr, List.map_cons]
    | none =>
      -- the row is not wanted, so it only stays if it is of another customer realm
      have hnot : isWanted wanted r = false := by
        rw [isWanted_eq_isSome, hr]
        rfl
      simp only [List.filterMap_cons, hr]
      rw [← ih]
      cases hof : isOf customer r with
      | true => rw [List.filter_cons_of_neg (by simp [stays, hof, hnot])]
      | false =>
        rw [List.filter_cons_of_pos (by simp [stays, hof]), List.map_cons,
          renewed_of_not_wanted hnot, List.filter_cons_of_neg (by simp [hof])]

theorem rowsFor_eq_map (wanted : List ContextKey) (l : List String) :
    (rowsFor wanted l : List ρ) = (l.filterMap (lastKey wanted)).map ofKey := by
  rw [rowsFor, List.map_filterMap]

/-- The rows of the customer realm in the table that is meant. -/
theorem filter_reconciled {customer : String} {wanted : List ContextKey}
    (hnodup : (wanted.map ContextKey.id).Nodup)
    (hwanted : ∀ k ∈ wanted, k.customerRealm = customer) (rows : List ρ) :
    (reconciled customer wanted rows).filter (isOf customer) =
      (inTable wanted (ids rows)).map ofKey := by
  have hnew : (rowsFor wanted (newIds wanted (ids rows)) : List ρ).filter (isOf customer) =
      (wanted.filter fun k => !(ids rows).contains k.id).map ofKey := by
    rw [rowsFor_eq_map, filterMap_lastKey_newIds hnodup, List.filter_eq_self.2]
    intro r hr
    obtain ⟨k, hk, rfl⟩ := List.mem_map.1 hr
    exact isOf_ofKey_iff.2 (hwanted k (List.mem_filter.1 hk).1)
  rw [reconciled, List.filter_append, filter_renewed hwanted, hnew, inTable, List.map_append]

/-! ### Putting in what was read -/

variable {customer : String} {keys : List ContextKey} {rows : List ρ}

theorem nodup_ids_of_read (hids : DistinctIds rows)
    (hread : (rows.filter (isOf customer)).map read = keys.map .ok) :
    (keys.map ContextKey.id).Nodup := by
  rw [← ids_of_read hread]
  exact hids.filter _

theorem exists_own_row (hread : (rows.filter (isOf customer)).map read = keys.map .ok)
    {k : ContextKey} (hk : k ∈ keys) : ∃ r ∈ rows, isOf customer r = true ∧ read r = .ok k := by
  obtain ⟨r, hr, hrread⟩ := exists_row_of_mem hread hk
  exact ⟨r, (List.mem_filter.1 hr).1, (List.mem_filter.1 hr).2, hrread⟩

theorem customer_of_mem_read (hread : (rows.filter (isOf customer)).map read = keys.map .ok) :
    ∀ k ∈ keys, k.customerRealm = customer := by
  intro k hk
  obtain ⟨r, -, hof, hrread⟩ := exists_own_row hread hk
  exact (isOf_iff_of_read hrread).1 hof

/-- Of the keys of a customer realm's rows, an identifier is that of one of these rows. -/
theorem isWanted_of_read (hids : DistinctIds rows)
    (hread : (rows.filter (isOf customer)).map read = keys.map .ok) {r : ρ} (hr : r ∈ rows) :
    isWanted keys r = isOf customer r := by
  rw [Bool.eq_iff_iff, isWanted_iff]
  constructor
  · rintro ⟨i, hi, hmem⟩
    obtain ⟨k, hk, rfl⟩ := List.mem_map.1 hmem
    obtain ⟨s, hs, hof, hsread⟩ := exists_own_row hread hk
    rw [hids.eq_of_id hr hs hi (id_of_read hsread)]
    exact hof
  · intro hof
    obtain ⟨k, hk, hrread⟩ := exists_read_of_mem hread (List.mem_filter.2 ⟨hr, hof⟩)
    exact ⟨k.id, id_of_read hrread, List.mem_map_of_mem hk⟩

/-- The keys that were read stand in the table in the order in which they were read. -/
theorem inTable_of_read (hids : DistinctIds rows)
    (hread : (rows.filter (isOf customer)).map read = keys.map .ok) :
    inTable keys (ids rows) = keys := by
  -- the identifiers of keys that were read have rows, so none of them is new
  have hnew : (keys.filter fun k => !(ids rows).contains k.id) = [] := by
    refine List.filter_eq_nil_iff.2 fun k hk => ?_
    obtain ⟨r, hr, -, hrread⟩ := exists_own_row hread hk
    rw [List.contains_iff_mem.2 (mem_ids.2 ⟨r, hr, id_of_read hrread⟩)]
    exact Bool.false_ne_true
  -- the last key for a row is the one that was read of it, if the row is of the customer realm
  have hlast : ∀ r ∈ rows, (KeyRow.id r).bind (lastKey keys) =
      if isOf customer r then (read r).toOption else none := by
    intro r hr
    cases hof : isOf customer r with
    | true =>
      obtain ⟨k, hk, hrread⟩ := exists_read_of_mem hread (List.mem_filter.2 ⟨hr, hof⟩)
      rw [id_of_read hrread, hrread, Option.bind_some,
        lastKey_of_mem (nodup_ids_of_read hids hread) hk]
      rfl
    | false =>
      have hnot := (isWanted_of_read hids hread hr).trans hof
      rw [isWanted_eq_isSome] at hnot
      exact Option.not_isSome_iff_eq_none.1 (Bool.eq_false_iff.1 hnot)
  calc inTable keys (ids rows)
      = rows.filterMap fun r => (KeyRow.id r).bind (lastKey keys) := by
        rw [inTable, hnew, List.append_nil, filterMap_lastKey_ids]
    _ = (rows.filter (isOf customer)).filterMap fun r => (read r).toOption := by
        rw [List.filterMap_filter]
        exact List.filterMap_congr hlast
    _ = (keys.map Except.ok).filterMap Except.toOption := by
        rw [← hread, List.filterMap_map]
        rfl
    _ = keys := by
        rw [List.filterMap_map]
        exact List.filterMap_some

/-- Putting in what was read leaves the rows of all other customer realms. -/
theorem filter_not_isOf_reconciled (hids : DistinctIds rows)
    (hread : (rows.filter (isOf customer)).map read = keys.map .ok) :
    (reconciled customer keys rows).filter (fun r => !isOf customer r) =
      rows.filter fun r => !isOf customer r := by
  refine isolated_of_confined hids (confined_of_own (customer_of_mem_read hread) ?_)
  intro k hk r hr hri
  rw [← isWanted_of_read hids hread hr]
  exact isWanted_iff.2 ⟨k.id, hri, List.mem_map_of_mem hk⟩

end Tables

/-! ### Registries -/

section Registries

variable {σ τ ρ : Type} [Backend σ τ] [KeyRow ρ] [Tabular σ τ ρ]

/-- What is read after a replacement that succeeds. -/
theorem contextKeys_replaced {r r' : Registry σ} {customer : String} {wanted : List ContextKey}
    (hids : DistinctIds (Tabular.rows r.database)) (hnodup : (wanted.map ContextKey.id).Nodup)
    (hwanted : ∀ k ∈ wanted, k.customerRealm = customer)
    (h : r.replaceContextKeys customer wanted = (.ok (), r')) :
    r'.contextKeys customer = .ok (inTable wanted (ids (Tabular.rows r.database))) := by
  refine contextKeys_ok_iff.2 ⟨open_of_ok h, ?_⟩
  rw [(reconciles_of_ok hids h).table, filter_reconciled hnodup hwanted, List.map_map]
  exact List.map_congr_left fun k _ => read_ofKey k

/-- After a replacement by the keys that were read, they are read again. -/
theorem replaceContextKeys_same {r r' : Registry σ} {customer : String} {keys : List ContextKey}
    (hids : DistinctIds (Tabular.rows r.database)) (hread : r.contextKeys customer = .ok keys)
    (h : r.replaceContextKeys customer keys = (.ok (), r')) :
    r'.contextKeys customer = .ok keys ∧
      (Tabular.rows r'.database).filter (fun row => !isOf customer row) =
        (Tabular.rows r.database).filter fun row => !isOf customer row := by
  have hrows := (contextKeys_ok_iff.1 hread).2
  constructor
  · rw [contextKeys_replaced hids (nodup_ids_of_read hids hrows) (customer_of_mem_read hrows) h,
      inTable_of_read hids hrows]
  · rw [(reconciles_of_ok hids h).table]
    exact filter_not_isOf_reconciled hids hrows

/-- A kind of database that gives context keys back as they were put in. -/
structure ReadsBack (σ : Type) {τ ρ : Type} [Backend σ τ] [KeyRow ρ] [Tabular σ τ ρ] : Prop where
  /-- Each wanted key is read once and no other, first those that had a row. -/
  replaced : ∀ (r r' : Registry σ) (customer : String) (wanted : List ContextKey),
    DistinctIds (Tabular.rows r.database) → (wanted.map ContextKey.id).Nodup →
    (∀ k ∈ wanted, k.customerRealm = customer) →
    r.replaceContextKeys customer wanted = (.ok (), r') →
    r'.contextKeys customer = .ok (inTable wanted (ids (Tabular.rows r.database))) ∧
      (inTable wanted (ids (Tabular.rows r.database))).Perm wanted
  /-- Keys that were read are read again from the document in which they are printed. -/
  printed : ∀ (r : Registry σ) (customer : String) (keys : List ContextKey),
    r.contextKeys customer = .ok keys →
    fromText (List ContextKey) (Command.Answer.document (toJson keys)).output = .ok keys
  /-- Putting in keys that were read succeeds unless the database fails, -/
  succeeds : ∀ (r : Registry σ) (customer : String) (keys : List ContextKey),
    r.contextKeys customer = .ok keys →
    ((∃ f, (r.replaceContextKeys customer keys).1 = .error (.database f)) ∨
      (r.replaceContextKeys customer keys).1 = .ok ()) ∧
    (Tabular.Calm r.database → (r.replaceContextKeys customer keys).1 = .ok ())
  /-- and then they are read in the same order, and all other rows are as they were. -/
  same : ∀ (r r' : Registry σ) (customer : String) (keys : List ContextKey),
    DistinctIds (Tabular.rows r.database) → r.contextKeys customer = .ok keys →
    r.replaceContextKeys customer keys = (.ok (), r') →
    r'.contextKeys customer = .ok keys ∧
      (Tabular.rows r'.database).filter (fun row => !isOf customer row) =
        (Tabular.rows r.database).filter fun row => !isOf customer row

theorem readsBack : ReadsBack σ where
  replaced _ _ _ _ hids hnodup hwanted h :=
    ⟨contextKeys_replaced hids hnodup hwanted h, inTable_perm hnodup hids⟩
  printed _ _ keys _ := ContextKey.fromText_output keys
  succeeds r customer keys hread := by
    constructor
    · rcases replaceContextKeys_cases r customer keys with
        ⟨e, herror, -⟩ | ⟨existing, -, ⟨f, db', heq, -⟩ | ⟨db', heq, -, -⟩⟩
      · cases herror.symm.trans hread
      · rw [heq]
        exact .inl ⟨f, rfl⟩
      · rw [heq]
        exact .inr rfl
    · intro hcalm
      obtain ⟨db', heq⟩ := replaceContextKeys_calm hread hcalm keys
      rw [heq]
  same _ _ _ _ hids hread h := replaceContextKeys_same hids hread h

end Registries

/-- Context keys are read back as they were put in or printed, from either kind of database. -/
theorem keys_read_back : ReadsBack Memory ∧ ReadsBack Relational := ⟨readsBack, readsBack⟩

/-- A context key that is taken over is read before one that is new, and one that is printed and
put in again is read once more. -/
theorem keys_read_back_taken_over :
    let old := [bareKey "A" "old" "acme", bareKey "B" "old" "other"]
    let wanted := [bareKey "C" "new" "acme", bareKey "B" "new" "acme"]
    (∃ r' : Registry Memory,
      (Registry.ofDatabase (Memory.storing old)).replaceContextKeys "acme" wanted = (.ok (), r') ∧
        r'.contextKeys "acme" = .ok [bareKey "B" "new" "acme", bareKey "C" "new" "acme"]) ∧
    (∃ r' : Registry Relational,
      (Registry.ofDatabase (Relational.storing old)).replaceContextKeys "acme"
        [bareKey "A" "old" "acme"] = (.ok (), r') ∧
        r'.contextKeys "acme" = .ok [bareKey "A" "old" "acme"]) ∧
    fromText (List ContextKey)
        (Command.Answer.document (toJson [bareKey "A" "old" "acme"])).output =
      .ok [bareKey "A" "old" "acme"] := by
  intro old wanted
  have hrows {ρ : Type} [KeyRow ρ] : [(ofKey (bareKey "A" "old" "acme") : ρ)].map read =
      [bareKey "A" "old" "acme"].map .ok := congrArg (fun x => [x]) (read_ofKey _)
  have hdistinct : ["A", "B"].Nodup := by decide
  have hnodup : (wanted.map ContextKey.id).Nodup := show ["C", "B"].Nodup by decide
  have hwanted : ∀ k ∈ wanted, k.customerRealm = "acme" := by decide
  have hmemory : (Registry.ofDatabase (Memory.storing old)).contextKeys "acme" =
      .ok [bareKey "A" "old" "acme"] := contextKeys_ok_iff.2 ⟨Memory.open_storing old, hrows⟩
  have hrelational : (Registry.ofDatabase (Relational.storing old)).contextKeys "acme" =
      .ok [bareKey "A" "old" "acme"] := contextKeys_ok_iff.2 ⟨Relational.open_storing old, hrows⟩
  obtain ⟨m, hm⟩ := replaceContextKeys_calm hmemory (Memory.calm_storing old) wanted
  obtain ⟨d, hd⟩ := replaceContextKeys_calm hrelational (Relational.calm_storing old)
    [bareKey "A" "old" "acme"]
  have hmids : DistinctIds (Memory.storing old).contextKeys := hdistinct
  have hdids : DistinctIds (Relational.storing old).keyRows := hdistinct
  exact ⟨⟨_, hm, (keys_read_back.1.replaced _ _ _ _ hmids hnodup hwanted hm).1⟩,
    ⟨_, hd, (keys_read_back.2.same _ _ _ _ hdids hrelational hd).1⟩,
    keys_read_back.2.printed _ _ _ hrelational⟩

end RealmRegistry
