/-
What the plan for the context keys of a customer realm makes of a table.

`reconciled` is the table that is meant, in the order of its rows: rows of the customer realm that
are not wanted go, the others stay in their places, each with the last wanted content for its
identifier, and behind them stand the new identifiers in the order in which they are wanted.

* `applied_deletes` — deletions leave the rows of all other identifiers;
* `applied_upserts` — keys that are put in replace in place or go to the end, and the last counts;
* `applied_plan` — the plan makes the table that is meant;
* `filter_others_reconciled` — rows that the customer realm has nothing to do with are untouched.
-/
import Mathlib.Data.List.Nodup
import RealmRegistry.Proofs.Registry.KeyRow

namespace RealmRegistry

open Store KeyRow

/-! ### What is stale -/

theorem distinctFrom_eq (seen l : List String) :
    distinctFrom seen l = (l.filter fun i => !seen.contains i).eraseDups := by
  induction l generalizing seen with
  | nil => rfl
  | cons a r ih =>
    rw [distinctFrom]
    split
    next hseen => rw [ih, List.filter_cons_of_neg (by simpa using hseen)]
    next hseen =>
      rw [List.filter_cons_of_pos (by simpa using hseen), List.eraseDups_cons, ih,
        List.filter_filter]
      -- what has come once is among what was seen from then on
      refine congrArg (fun l => a :: List.eraseDups l) (List.filter_congr fun i _ => ?_)
      rw [List.contains_cons, Bool.not_or]

@[simp] theorem mem_distinctFrom {i : String} {seen l : List String} :
    i ∈ distinctFrom seen l ↔ i ∈ l ∧ i ∉ seen := by
  rw [distinctFrom_eq, List.mem_eraseDups, List.mem_filter, Bool.not_eq_true',
    ← Bool.not_eq_true, List.contains_iff_mem]

theorem nodup_distinctFrom (seen l : List String) : (distinctFrom seen l).Nodup := by
  induction l generalizing seen with
  | nil => exact .nil
  | cons a r ih =>
    rw [distinctFrom]
    split
    next => exact ih seen
    next =>
      refine List.nodup_cons.2 ⟨fun hmem => ?_, ih (a :: seen)⟩
      exact (mem_distinctFrom.1 hmem).2 List.mem_cons_self

/-- What is stale is stored and not wanted. -/
@[simp] theorem mem_staleIds {i : String} {existing wanted : List ContextKey} :
    i ∈ staleIds existing wanted ↔
      i ∈ existing.map ContextKey.id ∧ i ∉ wanted.map ContextKey.id :=
  mem_distinctFrom

/-! ### The table that is meant -/

section Meant

variable {ρ : Type} [KeyRow ρ]

/-- The last of some keys with an identifier. -/
def lastKey (keys : List ContextKey) (i : String) : Option ContextKey :=
  keys.reverse.find? fun k => k.id == i

/-- Whether the identifier of a row is wanted. -/
def isWanted (wanted : List ContextKey) (r : ρ) : Bool :=
  wanted.any fun k => KeyRow.id r == some k.id

/-- Whether a row is to stay: it is of another customer realm, or wanted. -/
def stays (customer : String) (wanted : List ContextKey) (r : ρ) : Bool :=
  !isOf customer r || isWanted wanted r

/-- A row with the last wanted content for its identifier, if there is any. -/
def renewed (wanted : List ContextKey) (r : ρ) : ρ :=
  match (KeyRow.id r).bind (lastKey wanted) with
  | some k => ofKey k
  | none => r

/-- The wanted identifiers that are not among the old ones, each at its first place. -/
def newIds (wanted : List ContextKey) (old : List String) : List String :=
  ((wanted.map ContextKey.id).filter fun i => !old.contains i).eraseDups

/-- The rows of some identifiers, each with its last wanted content. -/
def rowsFor (wanted : List ContextKey) (l : List String) : List ρ :=
  l.filterMap fun i => (lastKey wanted i).map ofKey

/-- The table in which a customer realm has the wanted keys. -/
def reconciled (customer : String) (wanted : List ContextKey) (rows : List ρ) : List ρ :=
  (rows.filter (stays customer wanted)).map (renewed wanted) ++
    rowsFor wanted (newIds wanted (ids rows))

/-! ### Last contents -/

theorem lastKey_cons (k : ContextKey) (wanted : List ContextKey) (i : String) :
    lastKey (k :: wanted) i =
      (lastKey wanted i).or (if k.id = i then some k else none) := by
  rw [lastKey, List.reverse_cons, List.find?_append, List.find?_singleton]
  simp only [beq_iff_eq]
  rfl

theorem lastKey_of_ne {k : ContextKey} {i : String} (h : k.id ≠ i) (wanted : List ContextKey) :
    lastKey (k :: wanted) i = lastKey wanted i := by
  rw [lastKey_cons, if_neg h, Option.or_none]

theorem lastKey_mem {wanted : List ContextKey} {i : String} {k : ContextKey}
    (h : lastKey wanted i = some k) : k ∈ wanted ∧ k.id = i :=
  ⟨List.mem_reverse.1 (List.mem_of_find?_eq_some h),
    beq_iff_eq.1 (List.find?_some (p := fun k : ContextKey => k.id == i) h)⟩

@[simp] theorem lastKey_isSome {wanted : List ContextKey} {i : String} :
    (lastKey wanted i).isSome = true ↔ i ∈ wanted.map ContextKey.id := by
  simp only [lastKey, List.find?_isSome, List.mem_reverse, beq_iff_eq, List.mem_map]

@[simp] theorem isWanted_iff {wanted : List ContextKey} {r : ρ} :
    isWanted wanted r = true ↔ ∃ i, KeyRow.id r = some i ∧ i ∈ wanted.map ContextKey.id := by
  simp only [isWanted, List.any_eq_true, beq_iff_eq, List.mem_map]
  constructor
  · rintro ⟨k, hk, heq⟩
    exact ⟨k.id, heq, k, hk, rfl⟩
  · rintro ⟨i, hi, k, hk, rfl⟩
    exact ⟨k, hk, hi⟩

theorem renewed_of_id {wanted : List ContextKey} {r : ρ} {i : String} (h : KeyRow.id r = some i) :
    renewed wanted r = match lastKey wanted i with | some k => ofKey k | none => r := by
  rw [renewed, h]
  rfl

theorem isWanted_eq_isSome (wanted : List ContextKey) (r : ρ) :
    isWanted wanted r = ((KeyRow.id r).bind (lastKey wanted)).isSome := by
  rw [Bool.eq_iff_iff, isWanted_iff]
  cases hi : KeyRow.id r with
  | none => simp
  | some i =>
    rw [Option.bind_some, lastKey_isSome]
    constructor
    · rintro ⟨j, hj, hmem⟩
      rw [Option.some.inj hj]
      exact hmem
    · intro hmem
      exact ⟨i, rfl, hmem⟩

/-- A row that is wanted has the identifier of the content that it gets. -/
theorem mem_of_bind_lastKey {wanted : List ContextKey} {r : ρ} {k : ContextKey}
    (h : (KeyRow.id r).bind (lastKey wanted) = some k) : k ∈ wanted ∧ KeyRow.id r = some k.id := by
  obtain ⟨i, hi, hk⟩ := Option.bind_eq_some_iff.1 h
  obtain ⟨hmem, rfl⟩ := lastKey_mem hk
  exact ⟨hmem, hi⟩

/-- A row that is not wanted stays as it is. -/
theorem renewed_of_not_wanted {wanted : List ContextKey} {r : ρ}
    (h : isWanted wanted r = false) : renewed wanted r = r := by
  rw [isWanted_eq_isSome] at h
  rw [renewed, Option.not_isSome_iff_eq_none.1 (Bool.eq_false_iff.1 h)]

/-- A row that was put in is renewed to what a row with its identifier is renewed to. -/
theorem renewed_ofKey {k : ContextKey} {wanted : List ContextKey} {r : ρ}
    (h : KeyRow.id r = some k.id) :
    renewed wanted (ofKey k) = renewed (k :: wanted) r := by
  rw [renewed_of_id h, renewed_of_id (id_ofKey k), lastKey_cons, if_pos rfl]
  cases lastKey wanted k.id <;> rfl

theorem renewed_of_ne {k : ContextKey} {r : ρ} (h : KeyRow.id r ≠ some k.id)
    (wanted : List ContextKey) : renewed (k :: wanted) r = renewed wanted r := by
  cases hr : KeyRow.id r with
  | none => rw [renewed, renewed, hr]; rfl
  | some i =>
    have hne : k.id ≠ i := fun heq => h (heq ▸ hr)
    rw [renewed_of_id hr, renewed_of_id hr, lastKey_of_ne hne]

theorem rowsFor_cons {wanted : List ContextKey} {i : String} {k : ContextKey}
    (h : lastKey wanted i = some k) (l : List String) :
    rowsFor (ρ := ρ) wanted (i :: l) = ofKey k :: rowsFor wanted l :=
  List.filterMap_cons_some (by rw [h]; rfl)

theorem rowsFor_congr {wanted wanted' : List ContextKey} {l : List String}
    (h : ∀ i ∈ l, lastKey wanted i = lastKey wanted' i) :
    rowsFor (ρ := ρ) wanted l = rowsFor wanted' l :=
  List.filterMap_congr fun i hi => by rw [h i hi]

/-! ### New identifiers -/

theorem newIds_of_old {k : ContextKey} {old : List String} (h : k.id ∈ old)
    (wanted : List ContextKey) : newIds (k :: wanted) old = newIds wanted old := by
  rw [newIds, List.map_cons, List.filter_cons_of_neg]
  · rfl
  · rw [List.contains_iff_mem.2 h]
    exact Bool.false_ne_true

theorem newIds_of_new {k : ContextKey} {old : List String} (h : k.id ∉ old)
    (wanted : List ContextKey) :
    newIds (k :: wanted) old = k.id :: newIds wanted (old ++ [k.id]) := by
  rw [newIds, List.map_cons, List.filter_cons_of_pos, List.eraseDups_cons, List.filter_filter,
    newIds]
  · refine congrArg (fun l => k.id :: List.eraseDups l) (List.filter_congr fun i _ => ?_)
    rw [Bool.eq_iff_iff]
    simp only [Bool.and_eq_true, Bool.not_eq_true', beq_eq_false_iff_ne, List.contains_eq_mem,
      decide_eq_false_iff_not, List.mem_append, List.mem_singleton, not_or]
    exact And.comm
  · simp only [List.contains_eq_mem, h, decide_false, Bool.not_false]

theorem not_mem_of_newIds {wanted : List ContextKey} {old : List String} {i : String}
    (h : i ∈ newIds wanted old) : i ∉ old := by
  have hmem := (List.mem_filter.1 (List.mem_eraseDups.1 h)).2
  simpa using hmem

theorem newIds_congr {wanted : List ContextKey} {old old' : List String}
    (h : ∀ i ∈ wanted.map ContextKey.id, i ∈ old ↔ i ∈ old') :
    newIds wanted old = newIds wanted old' := by
  rw [newIds, newIds]
  refine congrArg List.eraseDups (List.filter_congr fun i hi => ?_)
  simp only [List.contains_eq_mem, h i hi]

end Meant

/-! ### Plans -/

section Plans

variable {ρ : Type} [KeyRow ρ]

/-- Deletions leave the rows of all other identifiers. -/
@[simp] theorem applied_deletes (l : List String) (rows : List ρ) :
    applied (l.map .delete) rows = rows.filter fun r => !l.any fun i => KeyRow.id r == some i := by
  induction l generalizing rows with
  | nil => exact (List.filter_eq_self.2 fun _ _ => rfl).symm
  | cons i l ih =>
    show applied (l.map .delete) (rows.filter fun r => KeyRow.id r != some i) = _
    rw [ih, List.filter_filter]
    refine List.filter_congr fun r _ => ?_
    rw [List.any_cons, Bool.not_or, Bool.and_comm]
    rfl

/-- The keys that are put in one after the other come to one replacement: the last content for an
identifier counts, rows keep their places and new identifiers go to the end. -/
theorem applied_upserts (wanted : List ContextKey) {rows : List ρ} (h : DistinctIds rows) :
    applied (wanted.map .upsert) rows =
      rows.map (renewed wanted) ++ rowsFor wanted (newIds wanted (ids rows)) := by
  induction wanted generalizing rows with
  | nil =>
    have hmap : rows.map (renewed []) = rows :=
      (List.map_congr_left fun r _ => renewed_of_not_wanted rfl).trans (List.map_id rows)
    rw [hmap]
    exact (List.append_nil rows).symm
  | cons k wanted ih =>
    have hput : DistinctIds (putKey k rows) := distinctIds_onRows (.upsert k) h
    show applied (wanted.map .upsert) (putKey k rows) = _
    rw [ih hput]
    by_cases hk : k.id ∈ ids rows
    · -- the row with this identifier is replaced, and may be once more by what is put in later
      have hmap : (putKey k rows).map (renewed wanted) = rows.map (renewed (k :: wanted)) := by
        rw [putKey_of_mem h hk, List.map_map]
        refine List.map_congr_left fun r _ => ?_
        show renewed wanted (if KeyRow.id r = some k.id then ofKey k else r) = _
        split
        next hr => exact renewed_ofKey hr
        next hr => exact (renewed_of_ne hr wanted).symm
      have hrows : rowsFor (ρ := ρ) wanted (newIds wanted (ids rows)) =
          rowsFor (k :: wanted) (newIds wanted (ids rows)) := by
        refine rowsFor_congr fun i hi => (lastKey_of_ne ?_ wanted).symm
        rintro rfl
        exact not_mem_of_newIds hi hk
      rw [hmap, ids_putKey_of_mem hk, newIds_of_old hk, hrows]
    · -- a row is put at the end, and gets the last content that is put in for its identifier
      have hmap : rows.map (renewed wanted) = rows.map (renewed (k :: wanted)) :=
        List.map_congr_left fun r hr =>
          (renewed_of_ne (fun heq => hk (mem_ids.2 ⟨r, hr, heq⟩)) wanted).symm
      have hrows : rowsFor (ρ := ρ) wanted (newIds wanted (ids rows ++ [k.id])) =
          rowsFor (k :: wanted) (newIds wanted (ids rows ++ [k.id])) := by
        refine rowsFor_congr fun i hi => (lastKey_of_ne ?_ wanted).symm
        rintro rfl
        exact not_mem_of_newIds hi (List.mem_append_right _ (List.mem_singleton.2 rfl))
      obtain ⟨last, hlast, hnew⟩ : ∃ last, lastKey (k :: wanted) k.id = some last ∧
          (ofKey last : ρ) = renewed wanted (ofKey k) := by
        rw [renewed_of_id (id_ofKey k), lastKey_cons, if_pos rfl]
        cases lastKey wanted k.id with
        | none => exact ⟨k, rfl, rfl⟩
        | some last => exact ⟨last, rfl, rfl⟩
      rw [ids_putKey_of_not_mem hk, newIds_of_new hk, putKey_of_not_mem hk, List.map_append, hmap,
        hrows, List.append_assoc, rowsFor_cons hlast, hnew]
      rfl

/-- The plan makes the table that is meant, if the existing keys are those of the customer realm's
rows. -/
theorem applied_plan {customer : String} {existing : List ContextKey} (wanted : List ContextKey)
    {rows : List ρ} (h : DistinctIds rows)
    (hread : (rows.filter (isOf customer)).map read = existing.map .ok) :
    applied (plan existing wanted) rows = reconciled customer wanted rows := by
  have hids := ids_of_read hread
  -- what is deleted is what is not to stay
  have hstay : ∀ r ∈ rows, (!(staleIds existing wanted).any fun i => KeyRow.id r == some i) =
      stays customer wanted r := by
    intro r hr
    rw [Bool.eq_iff_iff, stays, Bool.or_eq_true, Bool.not_eq_true', Bool.not_eq_true',
      isWanted_iff, List.any_eq_false]
    simp only [beq_iff_eq, mem_staleIds, ← hids]
    constructor
    · intro hnot
      by_cases hof : isOf customer r = true
      · -- a row of the customer realm was read, so it has an identifier
        obtain ⟨k, -, hk⟩ := exists_read_of_mem hread (List.mem_filter.2 ⟨hr, hof⟩)
        have hmem : k.id ∈ ids (rows.filter (isOf customer)) :=
          mem_ids.2 ⟨r, List.mem_filter.2 ⟨hr, hof⟩, id_of_read hk⟩
        refine .inr ⟨k.id, id_of_read hk, Classical.byContradiction fun hwanted => ?_⟩
        exact hnot k.id ⟨hmem, hwanted⟩ (id_of_read hk)
      · exact .inl (Bool.eq_false_iff.2 hof)
    · rintro hor i ⟨hmem, hwanted⟩ hri
      rcases hor with hof | ⟨j, hrj, hj⟩
      · -- what is stale is the identifier of a row of the customer realm, and of no other row
        obtain ⟨s, hs, hsi⟩ := mem_ids.1 hmem
        obtain ⟨hs, hsof⟩ := List.mem_filter.1 hs
        rw [h.eq_of_id hr hs hri hsi, hsof] at hof
        cases hof
      · rw [hri] at hrj
        cases hrj
        exact hwanted hj
  rw [plan, applied_append, applied_deletes, List.filter_congr hstay,
    applied_upserts wanted (h.filter _), reconciled]
  refine congrArg (fun l => _ ++ rowsFor wanted l) (newIds_congr fun i hi => ?_)
  rw [mem_ids, mem_ids]
  refine ⟨fun ⟨r, hr, hri⟩ => ⟨r, (List.mem_filter.1 hr).1, hri⟩, fun ⟨r, hr, hri⟩ => ?_⟩
  have hwanted : stays customer wanted r = true := by
    rw [stays, Bool.or_eq_true]
    exact .inr (isWanted_iff.2 ⟨i, hri, hi⟩)
  exact ⟨r, List.mem_filter.2 ⟨hr, hwanted⟩, hri⟩

/-! ### Other rows -/

/-- Whether a row has nothing to do with a replacement. -/
def isOther (customer : String) (wanted : List ContextKey) (r : ρ) : Bool :=
  !isOf customer r && !isWanted wanted r

theorem isWanted_ofKey {k : ContextKey} {wanted : List ContextKey} (h : k ∈ wanted) :
    isWanted wanted (ofKey k : ρ) = true :=
  isWanted_iff.2 ⟨k.id, id_ofKey k, List.mem_map_of_mem h⟩

@[simp] theorem isWanted_renewed (wanted : List ContextKey) (r : ρ) :
    isWanted wanted (renewed wanted r) = isWanted wanted r := by
  cases hr : (KeyRow.id r).bind (lastKey wanted) with
  | none => rw [renewed, hr]
  | some k =>
    rw [renewed, hr, isWanted_ofKey (mem_of_bind_lastKey hr).1, isWanted_eq_isSome, hr]
    rfl

/-- Rows that are put in for new identifiers are those of wanted keys. -/
theorem mem_rowsFor {wanted : List ContextKey} {l : List String} {r : ρ}
    (h : r ∈ rowsFor wanted l) : ∃ k ∈ wanted, k.id ∈ l ∧ r = ofKey k := by
  obtain ⟨i, hi, hr⟩ := List.mem_filterMap.1 h
  obtain ⟨k, hk, rfl⟩ := Option.map_eq_some_iff.1 hr
  obtain ⟨hmem, rfl⟩ := lastKey_mem hk
  exact ⟨k, hmem, hi, rfl⟩

/-- Rows of other identifiers and other customer realms are untouched. -/
theorem filter_others_reconciled (customer : String) (wanted : List ContextKey) (rows : List ρ) :
    (reconciled customer wanted rows).filter (isOther customer wanted) =
      rows.filter (isOther customer wanted) := by
  have hnew : (rowsFor wanted (newIds wanted (ids rows)) : List ρ).filter
      (isOther customer wanted) = [] := by
    refine List.filter_eq_nil_iff.2 fun r hr => ?_
    obtain ⟨k, hk, -, rfl⟩ := mem_rowsFor hr
    rw [isOther, isWanted_ofKey hk, Bool.not_true, Bool.and_false]
    exact Bool.false_ne_true
  have hrow : ∀ r ∈ rows, isOther customer wanted r = true →
      stays customer wanted r = true ∧ renewed wanted r = r := by
    intro r _ hother
    rw [isOther, Bool.and_eq_true, Bool.not_eq_true', Bool.not_eq_true'] at hother
    rw [stays, hother.1]
    exact ⟨rfl, renewed_of_not_wanted hother.2⟩
  -- renewing makes no row another one that the replacement has nothing to do with
  have hrenewed : ∀ r : ρ,
      isOther customer wanted (renewed wanted r) = isOther customer wanted r := by
    intro r
    cases hr : isWanted wanted r with
    | true => simp [isOther, hr]
    | false => rw [renewed_of_not_wanted hr]
  calc (reconciled customer wanted rows).filter (isOther customer wanted)
      = ((rows.filter (stays customer wanted)).map (renewed wanted)).filter
          (isOther customer wanted) := by
        rw [reconciled, List.filter_append, hnew, List.append_nil]
    _ = ((rows.filter (stays customer wanted)).filter (isOther customer wanted)).map
          (renewed wanted) := by
        rw [List.filter_map]
        exact congrArg _ (List.filter_congr fun r _ => hrenewed r)
    _ = (rows.filter (isOther customer wanted)).map (renewed wanted) := by
        rw [List.filter_filter]
        refine congrArg _ (List.filter_congr fun r hr => ?_)
        cases hother : isOther customer wanted r with
        | true => rw [(hrow r hr hother).1, Bool.and_self]
        | false => rw [Bool.false_and]
    _ = rows.filter (isOther customer wanted) := by
        refine (List.map_congr_left fun r hr => ?_).trans (List.map_id _)
        obtain ⟨hr, hother⟩ := List.mem_filter.1 hr
        exact (hrow r hr hother).2

end Plans

end RealmRegistry
