/-
When a replacement for one customer realm leaves the rows of all others alone.

Stale keys are looked up among the rows of the customer realm, so no deletion reaches another one.
What is put in goes by its identifier alone, and the customer realm that is written is the one that
the key names.  So a key takes the row of another customer realm over if that one has its
identifier, and makes a row for another customer realm if it names one.  Rows of others are
untouched exactly if no wanted key does either (`Confined`).

* `isolated_reconciled_iff` — for the table that is meant;
* `replaceContextKeys_isolates_iff` — for a replacement that succeeds.
-/
import RealmRegistry.Proofs.Registry.Replacement

namespace RealmRegistry

open Store KeyRow

section Tables

variable {ρ : Type} [KeyRow ρ] {customer : String} {wanted : List ContextKey} {rows : List ρ}

/-- No row of another customer realm was changed, and none came about. -/
def Isolated (customer : String) (old new : List ρ) : Prop :=
  new.filter (fun r => !isOf customer r) = old.filter fun r => !isOf customer r

/-- Whatever is put in last for an identifier, a row of another customer realm with this identifier
has this content already, and where there is no such row the key is one of the customer realm. -/
def Confined (customer : String) (wanted : List ContextKey) (rows : List ρ) : Prop :=
  ∀ i k, lastKey wanted i = some k →
    (∀ r ∈ rows, KeyRow.id r = some i → isOf customer r = false → r = ofKey k) ∧
      ((∀ r ∈ rows, KeyRow.id r = some i → isOf customer r = true) → k.customerRealm = customer)

@[simp] theorem isOf_ofKey_iff {k : ContextKey} :
    isOf customer (ofKey k : ρ) = true ↔ k.customerRealm = customer :=
  isOf_iff_of_read (read_ofKey k)

@[simp] theorem mem_newIds {old : List String} {i : String} :
    i ∈ newIds wanted old ↔ i ∈ wanted.map ContextKey.id ∧ i ∉ old := by
  simp [newIds]

/-- The last content for each identifier is in the table that is meant. -/
theorem ofKey_mem_reconciled {i : String} {k : ContextKey} (h : lastKey wanted i = some k) :
    (ofKey k : ρ) ∈ reconciled customer wanted rows := by
  have hi : i ∈ wanted.map ContextKey.id := lastKey_isSome.1 (by rw [h]; rfl)
  rw [reconciled, List.mem_append]
  by_cases hold : i ∈ ids rows
  · -- a row has this identifier, so it stays and gets the content
    obtain ⟨r, hr, hri⟩ := mem_ids.1 hold
    have hstays : stays customer wanted r = true := by
      rw [stays, isWanted_iff.2 ⟨i, hri, hi⟩, Bool.or_true]
    refine .inl (List.mem_map.2 ⟨r, List.mem_filter.2 ⟨hr, hstays⟩, ?_⟩)
    rw [renewed_of_id hri, h]
  · refine .inr (List.mem_filterMap.2 ⟨i, mem_newIds.2 ⟨hi, hold⟩, ?_⟩)
    rw [h]
    rfl

theorem confined_of_isolated (hnew : DistinctIds (reconciled customer wanted rows))
    (h : Isolated customer rows (reconciled customer wanted rows)) :
    Confined customer wanted rows := by
  intro i k hk
  have hmem : (ofKey k : ρ) ∈ reconciled customer wanted rows := ofKey_mem_reconciled hk
  have hid : KeyRow.id (ofKey k : ρ) = some i := by rw [id_ofKey, (lastKey_mem hk).2]
  constructor
  · -- the row of another customer realm is still there, and only one row has its identifier
    intro r hr hri hof
    have hkept : r ∈ (reconciled customer wanted rows).filter fun r => !isOf customer r := by
      rw [h]
      exact List.mem_filter.2 ⟨hr, by rw [hof]; rfl⟩
    exact hnew.eq_of_id (List.mem_filter.1 hkept).1 hmem hri hid
  · -- a row for another customer realm would have been there before
    intro hall
    refine (isOf_ofKey_iff (ρ := ρ)).1 (Classical.byContradiction fun hof => ?_)
    rw [Bool.not_eq_true] at hof
    have hthere : (ofKey k : ρ) ∈ rows.filter fun r => !isOf customer r := by
      rw [← h]
      exact List.mem_filter.2 ⟨hmem, by rw [hof]; rfl⟩
    have hown := hall _ (List.mem_filter.1 hthere).1 hid
    rw [hof] at hown
    cases hown

/-- Renewing a row that stays makes it one of another customer realm only if it was one, and then
it is the row that it was. -/
theorem renewed_of_confined (hrows : DistinctIds rows) (h : Confined customer wanted rows) {r : ρ}
    (hr : r ∈ rows) :
    (isOf customer r = false → renewed wanted r = r) ∧
      (isOf customer r = true → stays customer wanted r = true →
        isOf customer (renewed wanted r) = true) := by
  cases hbind : (KeyRow.id r).bind (lastKey wanted) with
  | none =>
    have hsame : renewed wanted r = r := by rw [renewed, hbind]
    rw [hsame]
    exact ⟨fun _ => rfl, fun hof _ => hof⟩
  | some k =>
    obtain ⟨i, hri, hk⟩ := Option.bind_eq_some_iff.1 hbind
    have hrenewed : renewed wanted r = ofKey k := by rw [renewed, hbind]
    obtain ⟨htaken, hmade⟩ := h i k hk
    rw [hrenewed]
    constructor
    · intro hof
      exact (htaken r hr hri hof).symm
    · intro hof _
      -- the row is the only one with its identifier
      refine isOf_ofKey_iff.2 (hmade fun s hs hsi => ?_)
      rw [hrows.eq_of_id hs hr hsi hri]
      exact hof

theorem isolated_of_confined (hrows : DistinctIds rows) (h : Confined customer wanted rows) :
    Isolated customer rows (reconciled customer wanted rows) := by
  -- A key whose identifier is new is put in as a row of this customer.
  have hnew : (rowsFor wanted (newIds wanted (ids rows)) : List ρ).filter
      (fun r => !isOf customer r) = [] := by
    refine List.filter_eq_nil_iff.2 fun r hr => ?_
    obtain ⟨i, hi, hr⟩ := List.mem_filterMap.1 hr
    obtain ⟨k, hk, rfl⟩ := Option.map_eq_some_iff.1 hr
    have hnone : ∀ s ∈ rows, KeyRow.id s = some i → isOf customer s = true := fun s hs hsi =>
      absurd (mem_ids.2 ⟨s, hs, hsi⟩) (mem_newIds.1 hi).2
    rw [isOf_ofKey_iff.2 ((h i k hk).2 hnone)]
    exact Bool.false_ne_true
  -- A row that is renewed in its place neither enters nor leaves the other customers' rows.
  have hrow : ∀ r ∈ rows, (stays customer wanted r && !isOf customer (renewed wanted r)) =
      !isOf customer r := by
    intro r hr
    obtain ⟨hother, hown⟩ := renewed_of_confined hrows h hr
    by_cases hof : isOf customer r = true
    · by_cases hstays : stays customer wanted r = true
      · rw [hown hof hstays, hof, Bool.not_true, Bool.and_false]
      · rw [Bool.eq_false_iff.2 hstays, hof, Bool.not_true, Bool.false_and]
    · rw [Bool.not_eq_true] at hof
      rw [hother hof, stays, hof, Bool.not_false, Bool.true_or, Bool.true_and]
  calc (reconciled customer wanted rows).filter (fun r => !isOf customer r)
      = (rows.filter fun r => stays customer wanted r && !isOf customer (renewed wanted r)).map
          (renewed wanted) := by
        rw [reconciled, List.filter_append, hnew, List.append_nil, List.filter_map,
          List.filter_filter]
        exact congrArg _ (List.filter_congr fun r _ => Bool.and_comm _ _)
    _ = (rows.filter fun r => !isOf customer r).map (renewed wanted) := by
        rw [List.filter_congr hrow]
    _ = rows.filter fun r => !isOf customer r := by
        refine (List.map_congr_left fun r hr => ?_).trans (List.map_id _)
        obtain ⟨hr, hof⟩ := List.mem_filter.1 hr
        rw [Bool.not_eq_true'] at hof
        exact (renewed_of_confined hrows h hr).1 hof

/-- The table that is meant has the old rows of all other customer realms exactly if the wanted
keys are confined. -/
theorem isolated_reconciled_iff (hrows : DistinctIds rows)
    (hnew : DistinctIds (reconciled customer wanted rows)) :
    Isolated customer rows (reconciled customer wanted rows) ↔ Confined customer wanted rows :=
  ⟨confined_of_isolated hnew, isolated_of_confined hrows⟩

/-- Keys of the customer realm are confined if nobody else has a row with one of their
identifiers. -/
theorem confined_of_own (hwanted : ∀ k ∈ wanted, k.customerRealm = customer)
    (hids : ∀ k ∈ wanted, ∀ r ∈ rows, KeyRow.id r = some k.id → isOf customer r = true) :
    Confined customer wanted rows := by
  intro i k hk
  obtain ⟨hmem, rfl⟩ := lastKey_mem hk
  refine ⟨fun r hr hri hof => ?_, fun _ => hwanted k hmem⟩
  rw [hids k hmem r hr hri] at hof
  cases hof

end Tables

/-- A replacement that succeeds leaves the rows of all other customer realms as they were, and makes
none for them, exactly if no wanted key has the identifier of another one's row or names another
customer realm. -/
theorem replaceContextKeys_isolates_iff {σ τ ρ : Type} [Backend σ τ] [KeyRow ρ] [Tabular σ τ ρ]
    {r r' : Registry σ} {customer : String} {wanted : List ContextKey}
    (hids : DistinctIds (Tabular.rows r.database))
    (h : r.replaceContextKeys customer wanted = (.ok (), r')) :
    Isolated customer (Tabular.rows r.database) (Tabular.rows r'.database) ↔
      Confined customer wanted (Tabular.rows r.database) := by
  obtain ⟨htable, -, hdistinct, -⟩ := reconciles_of_ok hids h
  rw [htable] at hdistinct ⊢
  exact isolated_reconciled_iff hids hdistinct

/-- A key is renewed and another one is new, beside a row of another customer realm, in both kinds
of database. -/
theorem replaceContextKeys_isolates_own :
    let old := [bareKey "A" "old" "acme", bareKey "B" "old" "other"]
    let wanted := [bareKey "A" "new" "acme", bareKey "C" "new" "acme"]
    (∃ r' : Registry Memory,
      (Registry.ofDatabase (Memory.storing old)).replaceContextKeys "acme" wanted = (.ok (), r') ∧
        Isolated "acme" (Memory.storing old).contextKeys r'.database.contextKeys) ∧
    ∃ r' : Registry Relational,
      (Registry.ofDatabase (Relational.storing old)).replaceContextKeys "acme" wanted =
        (.ok (), r') ∧ Isolated "acme" (Relational.storing old).keyRows r'.database.keyRows := by
  intro old wanted
  have hdistinct : ["A", "B"].Nodup := by decide
  have hread {ρ : Type} [KeyRow ρ] :
      [(ofKey (bareKey "A" "old" "acme") : ρ)].map read =
        [bareKey "A" "old" "acme"].map .ok := by
    simp
  have hwanted : ∀ k ∈ wanted, k.customerRealm = "acme" := by
    intro k hk
    rcases List.mem_pair.1 hk with rfl | rfl <;> rfl
  -- the row of the other customer realm has another identifier than the keys
  have hconfined {ρ : Type} [KeyRow ρ] : Confined "acme" wanted (old.map (ofKey (ρ := ρ))) := by
    refine confined_of_own hwanted fun k hk r hr hid => ?_
    obtain ⟨k', hk', rfl⟩ := List.mem_map.1 hr
    rw [id_ofKey] at hid
    rcases List.mem_pair.1 hk' with rfl | rfl
    · exact isOf_ofKey_iff.2 rfl
    · rcases List.mem_pair.1 hk with rfl | rfl <;> exact absurd hid (by decide)
  constructor
  · have hkeys : (Registry.ofDatabase (Memory.storing old)).contextKeys "acme" =
        .ok [bareKey "A" "old" "acme"] :=
      contextKeys_ok_iff.2 ⟨Memory.open_storing old, hread⟩
    obtain ⟨db', h⟩ := replaceContextKeys_calm hkeys (Memory.calm_storing old) wanted
    have hids : DistinctIds (Memory.storing old).contextKeys := hdistinct
    exact ⟨_, h, (replaceContextKeys_isolates_iff hids h).2 hconfined⟩
  · have hkeys : (Registry.ofDatabase (Relational.storing old)).contextKeys "acme" =
        .ok [bareKey "A" "old" "acme"] :=
      contextKeys_ok_iff.2 ⟨Relational.open_storing old, hread⟩
    obtain ⟨db', h⟩ := replaceContextKeys_calm hkeys (Relational.calm_storing old) wanted
    have hids : DistinctIds (Relational.storing old).keyRows := hdistinct
    exact ⟨_, h, (replaceContextKeys_isolates_iff hids h).2 hconfined⟩

/-- The row of another customer realm is taken over, and a row for another one is made. -/
theorem not_isolated_taken_over :
    let old := [bareKey "B" "old" "other"]
    (∃ r' : Registry Memory,
      (Registry.ofDatabase (Memory.storing old)).replaceContextKeys "acme"
        [bareKey "B" "new" "acme"] = (.ok (), r') ∧
        ¬ Isolated "acme" (Memory.storing old).contextKeys r'.database.contextKeys) ∧
    ∃ r' : Registry Memory,
      (Registry.ofDatabase (Memory.storing old)).replaceContextKeys "acme"
        [bareKey "A" "new" "third"] = (.ok (), r') ∧
        ¬ Isolated "acme" (Memory.storing old).contextKeys r'.database.contextKeys := by
  intro old
  have hdistinct : ["B"].Nodup := by decide
  have hids : DistinctIds (Memory.storing old).contextKeys := hdistinct
  have hkeys : (Registry.ofDatabase (Memory.storing old)).contextKeys "acme" = .ok [] :=
    contextKeys_ok_iff.2 ⟨Memory.open_storing old, rfl⟩
  -- an isolated replacement would be confined to keys of this customer realm
  have hconfined {wanted : List ContextKey} {r' : Registry Memory}
      (h : (Registry.ofDatabase (Memory.storing old)).replaceContextKeys "acme" wanted =
        (.ok (), r'))
      (hisolated : Isolated "acme" (Memory.storing old).contextKeys r'.database.contextKeys) :
      Confined "acme" wanted (Memory.storing old).contextKeys := by
    obtain ⟨htable, -, hdistinct, -⟩ := reconciles_of_ok hids h
    exact confined_of_isolated (htable ▸ hdistinct) (htable ▸ hisolated)
  constructor
  · obtain ⟨db', h⟩ := replaceContextKeys_calm hkeys (Memory.calm_storing old)
      [bareKey "B" "new" "acme"]
    refine ⟨_, h, fun hisolated => ?_⟩
    have hsame := (hconfined h hisolated "B" (bareKey "B" "new" "acme") rfl).1 _
      List.mem_cons_self rfl rfl
    have hlabel : ["old"] = ["new"] := congrArg (fun r => (r.text? 1).toList) hsame
    exact absurd hlabel (by decide)
  · obtain ⟨db', h⟩ := replaceContextKeys_calm hkeys (Memory.calm_storing old)
      [bareKey "A" "new" "third"]
    refine ⟨_, h, fun hisolated => ?_⟩
    have hown := (hconfined h hisolated "A" (bareKey "A" "new" "third") rfl).2 fun r hr hid => ?_
    · exact absurd hown (by decide)
    · rw [List.mem_singleton.1 hr] at hid
      exact absurd hid (by decide)

end RealmRegistry
