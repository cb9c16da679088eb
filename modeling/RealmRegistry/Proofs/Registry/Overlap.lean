/-
What two overlapping replacements make of a table.

The keys of a customer realm are read before the transaction that replaces them, so the second of
two plans may go by rows that the first one has replaced in the meantime.  For two customer realms
that is nothing to worry about (`Successive.mem_apart`): the table is the one that either order
makes.  For one customer realm (`Successive.mem_same`) the keys of the first call stay that are new
to it, since the second call has not read them; all else is as if the second one had come alone.

* `mem_applied_plan` — the rows after a plan, whatever keys it goes by;
* `filter_applied` — rows that no change is about are untouched;
* `Successive` — two plans one after the other, and what each goes by;
* `Merged`, `LastWins` — the table after plans for two customer realms, and after two for one.
-/
import Mathlib.Data.List.Dedup
import Mathlib.Data.Set.List
import RealmRegistry.Proofs.Registry.Interleaving
import RealmRegistry.Proofs.Registry.ReadBack

namespace RealmRegistry

open Store KeyRow

/-- The last key for each identifier. -/
def lastKeys (wanted : List ContextKey) : List ContextKey :=
  (wanted.map ContextKey.id).dedup.filterMap (lastKey wanted)

@[simp] theorem mem_lastKeys {wanted : List ContextKey} {k : ContextKey} :
    k ∈ lastKeys wanted ↔ lastKey wanted k.id = some k := by
  rw [lastKeys, List.mem_filterMap]
  constructor
  · rintro ⟨i, -, hk⟩
    rw [(lastKey_mem hk).2]
    exact hk
  · intro hk
    exact ⟨k.id, List.mem_dedup.2 (List.mem_map_of_mem (lastKey_mem hk).1), hk⟩

theorem nodup_lastKeys (wanted : List ContextKey) : (lastKeys wanted).Nodup := by
  -- no key is the last for two identifiers
  refine List.Nodup.filterMap (fun i j k hi hj => ?_) (List.nodup_dedup _)
  rw [← (lastKey_mem hi).2, ← (lastKey_mem hj).2]

/-- Of keys with different identifiers each is the last. -/
theorem lastKeys_of_nodup {wanted : List ContextKey} (h : (wanted.map ContextKey.id).Nodup) :
    lastKeys wanted = wanted := by
  rw [lastKeys, h.dedup, List.filterMap_map]
  exact (List.filterMap_congr fun k hk => lastKey_of_mem h hk).trans List.filterMap_some

section Tables

variable {ρ : Type} [KeyRow ρ]

/-! ### Rows after a plan -/

/-- The rows after keys were put in are the others and those of the last keys. -/
theorem mem_renewed {wanted : List ContextKey} {rows : List ρ} {r : ρ} :
    r ∈ rows.map (renewed wanted) ++ rowsFor wanted (newIds wanted (ids rows)) ↔
      (r ∈ rows ∧ isWanted wanted r = false) ∨ r ∈ (lastKeys wanted).map ofKey := by
  have hput {i : String} {k : ContextKey} (hk : lastKey wanted i = some k) :
      (ofKey k : ρ) ∈ (lastKeys wanted).map ofKey := by
    refine List.mem_map_of_mem (mem_lastKeys.2 ?_)
    rw [(lastKey_mem hk).2]
    exact hk
  rw [List.mem_append, List.mem_map]
  constructor
  · rintro (⟨s, hs, rfl⟩ | hr)
    · cases hbind : (KeyRow.id s).bind (lastKey wanted) with
      | none =>
        have hnot : isWanted wanted s = false := by rw [isWanted_eq_isSome, hbind]; rfl
        rw [renewed_of_not_wanted hnot]
        exact .inl ⟨hs, hnot⟩
      | some k =>
        obtain ⟨i, -, hk⟩ := Option.bind_eq_some_iff.1 hbind
        rw [renewed, hbind]
        exact .inr (hput hk)
    · obtain ⟨i, -, hi⟩ := List.mem_filterMap.1 hr
      obtain ⟨k, hk, rfl⟩ := Option.map_eq_some_iff.1 hi
      exact .inr (hput hk)
  · rintro (⟨hr, hnot⟩ | hr)
    · exact .inl ⟨r, hr, renewed_of_not_wanted hnot⟩
    · obtain ⟨k, hmem, rfl⟩ := List.mem_map.1 hr
      have hk := mem_lastKeys.1 hmem
      -- either a row is renewed by the key, or it gets a new one
      by_cases hold : k.id ∈ ids rows
      · obtain ⟨s, hs, hid⟩ := mem_ids.1 hold
        refine .inl ⟨s, hs, ?_⟩
        rw [renewed_of_id hid, hk]
      · have hnew := mem_newIds.2 ⟨List.mem_map_of_mem (lastKey_mem hk).1, hold⟩
        refine .inr (List.mem_filterMap.2 ⟨k.id, hnew, ?_⟩)
        rw [hk]
        rfl

/-- A plan leaves the rows that it neither goes by nor wants, and puts in the last keys. -/
theorem mem_applied_plan {existing wanted : List ContextKey} {rows : List ρ}
    (h : DistinctIds rows) {r : ρ} :
    r ∈ applied (plan existing wanted) rows ↔
      (r ∈ rows ∧ isWanted existing r = false ∧ isWanted wanted r = false) ∨
        r ∈ (lastKeys wanted).map ofKey := by
  have hstale : isWanted wanted r = false →
      ((!(staleIds existing wanted).any fun i => KeyRow.id r == some i) = true ↔
        isWanted existing r = false) := by
    intro hnot
    rw [Bool.not_eq_true', ← Bool.not_eq_true, ← Bool.not_eq_true, List.any_eq_true,
      isWanted_iff]
    refine not_congr (exists_congr fun i => ?_)
    rw [mem_staleIds, beq_iff_eq]
    refine ⟨fun ⟨⟨hi, _⟩, hid⟩ => ⟨hid, hi⟩, fun ⟨hid, hi⟩ => ⟨⟨hi, fun hwanted => ?_⟩, hid⟩⟩
    rw [isWanted_iff.2 ⟨i, hid, hwanted⟩] at hnot
    cases hnot
  rw [plan, applied_append, applied_deletes, applied_upserts wanted (h.filter _), mem_renewed,
    List.mem_filter]
  refine or_congr_left ?_
  constructor
  · rintro ⟨⟨hr, hkept⟩, hnot⟩
    exact ⟨hr, (hstale hnot).1 hkept, hnot⟩
  · rintro ⟨hr, hexisting, hnot⟩
    exact ⟨⟨hr, (hstale hnot).2 hexisting⟩, hnot⟩

/-- The identifier that a change is about. -/
def Change.id : Change → String
  | .delete i => i
  | .upsert k => k.id

theorem filter_onRows {p : ρ → Bool} {c : Change} {rows : List ρ}
    (hrows : ∀ r ∈ rows, p r = true → KeyRow.id r ≠ some c.id)
    (hput : ∀ k, c = .upsert k → p (ofKey k) = false) :
    (c.onRows rows).filter p = rows.filter p := by
  cases c with
  | delete i =>
    show (rows.filter fun r => KeyRow.id r != some i).filter p = _
    rw [List.filter_filter]
    refine List.filter_congr fun r hr => ?_
    cases hp : p r with
    | false => rfl
    | true =>
      rw [Bool.true_and, bne_iff_ne]
      exact hrows r hr hp
  | upsert k =>
    show (putKey k rows).filter p = _
    have hk := Bool.eq_false_iff.1 (hput k rfl)
    induction rows with
    | nil => rw [putKey, List.filter_cons_of_neg hk]
    | cons r rows ih =>
      rw [putKey]
      split
      next hr =>
        have hnot : ¬ p r = true := fun hp => hrows r List.mem_cons_self hp hr
        rw [List.filter_cons_of_neg hk, List.filter_cons_of_neg hnot]
      next hr =>
        have hrest := ih fun s hs => hrows s (List.mem_cons_of_mem r hs)
        rw [List.filter_cons, List.filter_cons, hrest]

/-- Rows that no change is about are untouched. -/
theorem filter_applied {p : ρ → Bool} {changes : List Change} {rows : List ρ}
    (hrows : ∀ r ∈ rows, p r = true → ∀ c ∈ changes, KeyRow.id r ≠ some c.id)
    (hput : ∀ k, .upsert k ∈ changes → p (ofKey k) = false) :
    (applied changes rows).filter p = rows.filter p := by
  induction changes generalizing rows with
  | nil => rfl
  | cons c changes ih =>
    have hone : (c.onRows rows).filter p = rows.filter p :=
      filter_onRows (fun r hr hp => hrows r hr hp c List.mem_cons_self)
        fun k hk => hput k (hk ▸ List.mem_cons_self)
    have hrest : (applied changes (c.onRows rows)).filter p = (c.onRows rows).filter p := by
      refine ih (fun r hr hp c' hc' => ?_) fun k hk => hput k (List.mem_cons_of_mem c hk)
      -- a row of this kind was there before
      have hold : r ∈ rows := (List.mem_filter.1 (hone ▸ List.mem_filter.2 ⟨hr, hp⟩)).1
      exact hrows r hold hp c' (List.mem_cons_of_mem c hc')
    exact hrest.trans hone

@[simp] theorem upsert_mem_plan {existing wanted : List ContextKey} {k : ContextKey} :
    .upsert k ∈ plan existing wanted ↔ k ∈ wanted := by
  rw [plan, List.mem_append]
  constructor
  · rintro (h | h)
    · obtain ⟨i, -, hi⟩ := List.mem_map.1 h
      cases hi
    · obtain ⟨_, hk, heq⟩ := List.mem_map.1 h
      cases heq
      exact hk
  · intro hk
    exact .inr (List.mem_map_of_mem hk)

theorem filter_applied_plan {p : ρ → Bool} {existing wanted : List ContextKey} {rows : List ρ}
    (hexisting : ∀ r ∈ rows, p r = true → isWanted existing r = false)
    (hwanted : ∀ r ∈ rows, p r = true → isWanted wanted r = false)
    (hput : ∀ k ∈ wanted, p (ofKey k) = false) :
    (applied (plan existing wanted) rows).filter p = rows.filter p := by
  refine filter_applied (fun r hr hp c hc hid => ?_) fun k hk => hput k (upsert_mem_plan.1 hk)
  rcases List.mem_append.1 hc with hc | hc
  · obtain ⟨i, hi, rfl⟩ := List.mem_map.1 hc
    exact absurd (isWanted_iff.2 ⟨i, hid, (mem_staleIds.1 hi).1⟩)
      (Bool.eq_false_iff.1 (hexisting r hr hp))
  · obtain ⟨k, hk, rfl⟩ := List.mem_map.1 hc
    exact absurd (isWanted_iff.2 ⟨k.id, hid, List.mem_map_of_mem hk⟩)
      (Bool.eq_false_iff.1 (hwanted r hr hp))

/-! ### Keys of a customer realm -/

/-- The wanted keys are keys of the customer realm, and no row of another one has an identifier of
theirs. -/
structure Wish.Own (w : Wish) (rows : List ρ) : Prop where
  named : ∀ k ∈ w.wanted, k.customerRealm = w.customer
  free : ∀ k ∈ w.wanted, ∀ r ∈ rows, KeyRow.id r = some k.id →
    ∀ name, isOf name r = true → name = w.customer

theorem distinctIds_ofKeys {keys : List ContextKey} (h : (keys.map ContextKey.id).Nodup) :
    DistinctIds (keys.map ofKey : List ρ) := by
  rw [DistinctIds, ids, List.filterMap_map,
    show (KeyRow.id ∘ ofKey : ContextKey → Option String) = some ∘ ContextKey.id from
      funext fun k => id_ofKey (ρ := ρ) k, List.filterMap_eq_map]
  exact h

/-- A table of keys in which no other customer realm has one with a wanted identifier. -/
theorem own_of_keys {w : Wish} {keys : List ContextKey}
    (hnamed : ∀ k ∈ w.wanted, k.customerRealm = w.customer)
    (hfree : ∀ k ∈ w.wanted, ∀ k' ∈ keys, k'.id = k.id → k'.customerRealm = w.customer) :
    w.Own (keys.map ofKey : List ρ) where
  named := hnamed
  free k hk r hr hid name hof := by
    obtain ⟨k', hk', rfl⟩ := List.mem_map.1 hr
    rw [id_ofKey] at hid
    rw [← isOf_ofKey_iff.1 hof]
    exact hfree k hk k' hk' (Option.some.inj hid)

/-- Reading the rows of a customer realm gives some keys. -/
def Reads (customer : String) (rows : List ρ) (keys : List ContextKey) : Prop :=
  (rows.filter (isOf customer)).map read = keys.map .ok

variable {w : Wish} {name : String} {rows : List ρ} {existing : List ContextKey}

theorem isOf_unique {customer : String} {r : ρ} (h : isOf customer r = true)
    (h' : isOf name r = true) : customer = name :=
  Option.some.inj ((beq_iff_eq.1 h).symm.trans (beq_iff_eq.1 h'))

theorem Wish.Own.not_wanted (h : w.Own rows) (hname : name ≠ w.customer) {r : ρ} (hr : r ∈ rows)
    (hof : isOf name r = true) : isWanted w.wanted r = false := by
  rw [← Bool.not_eq_true]
  intro hwanted
  obtain ⟨i, hid, hi⟩ := isWanted_iff.1 hwanted
  obtain ⟨k, hk, rfl⟩ := List.mem_map.1 hi
  exact hname (h.free k hk r hr hid name hof)

theorem Wish.Own.isOf_ofKey (h : w.Own rows) {k : ContextKey} (hk : k ∈ w.wanted) :
    isOf w.customer (ofKey k : ρ) = true :=
  isOf_ofKey_iff.2 (h.named k hk)

theorem Wish.Own.not_isOf_ofKey (h : w.Own rows) (hname : name ≠ w.customer) {k : ContextKey}
    (hk : k ∈ w.wanted) : isOf name (ofKey k : ρ) = false := by
  rw [← Bool.not_eq_true]
  exact fun hof => hname (isOf_unique hof (h.isOf_ofKey hk))

/-- Keys that were read of one customer realm's rows have no row of another one. -/
theorem not_wanted_of_read {customer : String} (hids : DistinctIds rows)
    (hread : Reads customer rows existing) (hname : name ≠ customer) {r : ρ} (hr : r ∈ rows)
    (hof : isOf name r = true) : isWanted existing r = false := by
  rw [isWanted_of_read hids hread hr, ← Bool.not_eq_true]
  exact fun hown => hname (isOf_unique hof hown)

theorem filter_other (hown : w.Own rows) (hname : name ≠ w.customer)
    (hexisting : ∀ r ∈ rows, isOf name r = true → isWanted existing r = false) :
    (applied (plan existing w.wanted) rows).filter (isOf name) = rows.filter (isOf name) :=
  filter_applied_plan hexisting (fun _ hr hof => hown.not_wanted hname hr hof)
    fun _ hk => hown.not_isOf_ofKey hname hk

theorem Reads.congr {customer : String} {rows' : List ρ} (h : Reads customer rows existing)
    (hrows : rows'.filter (isOf customer) = rows.filter (isOf customer)) :
    Reads customer rows' existing := by
  rw [Reads, hrows]
  exact h

/-- A key of which a row was read. -/
theorem isWanted_ofKey_iff {customer : String} (h : Reads customer rows existing)
    {k : ContextKey} : isWanted existing (ofKey k : ρ) = true ↔
      ∃ r ∈ rows, isOf customer r = true ∧ KeyRow.id r = some k.id := by
  rw [isWanted_iff, ← ids_of_read h]
  constructor
  · rintro ⟨i, hi, hmem⟩
    obtain ⟨r, hr, hid⟩ := mem_ids.1 hmem
    obtain ⟨hr, hof⟩ := List.mem_filter.1 hr
    exact ⟨r, hr, hof, hid.trans (hi.symm.trans (id_ofKey k))⟩
  · rintro ⟨r, hr, hof, hid⟩
    exact ⟨k.id, id_ofKey k, mem_ids.2 ⟨r, List.mem_filter.2 ⟨hr, hof⟩, hid⟩⟩

theorem ofKey_injective : Function.Injective (ofKey : ContextKey → ρ) := by
  intro k k' h
  have hread : read (ofKey k : ρ) = read (ofKey k' : ρ) := congrArg read h
  rw [read_ofKey, read_ofKey] at hread
  exact Except.ok.inj hread

/-- If the rows of a customer realm are those of the last keys, these are read. -/
theorem exists_reads {customer : String} {wanted : List ContextKey} (hids : DistinctIds rows)
    (hrows : ∀ r : ρ, r ∈ rows ∧ isOf customer r = true ↔ r ∈ (lastKeys wanted).map ofKey) :
    ∃ keys, Reads customer rows keys ∧ keys.Perm (lastKeys wanted) := by
  have hrange : rows.filter (isOf customer) ∈ Set.range (List.map ofKey) := by
    rw [Set.range_list_map]
    intro r hr
    obtain ⟨k, -, rfl⟩ := List.mem_map.1 ((hrows r).1 (List.mem_filter.1 hr))
    exact ⟨k, rfl⟩
  obtain ⟨keys, hkeys⟩ := hrange
  have hread : Reads customer rows keys := by
    rw [Reads, ← hkeys, List.map_map]
    exact List.map_congr_left fun k _ => read_ofKey k
  refine ⟨keys, hread, (List.perm_ext_iff_of_nodup ?_ (nodup_lastKeys _)).2 fun k => ?_⟩
  · exact List.Nodup.of_map ContextKey.id (nodup_ids_of_read hids hread)
  · rw [← List.mem_map_of_injective (ofKey_injective (ρ := ρ)), hkeys, List.mem_filter, hrows,
      List.mem_map_of_injective ofKey_injective]

/-! ### Two customer realms -/

section Merged

variable {a b : Wish} {old new : List ρ}

/-- The rows after plans for two customer realms: old ones that have to do with neither, and
those of the last keys. -/
def Merged (a b : Wish) (old : List ρ) (r : ρ) : Prop :=
  (r ∈ old ∧ (isOf a.customer r = false ∧ isWanted a.wanted r = false) ∧
    isOf b.customer r = false ∧ isWanted b.wanted r = false) ∨
  r ∈ (lastKeys a.wanted).map ofKey ∨ r ∈ (lastKeys b.wanted).map ofKey

theorem merged_comm {r : ρ} : Merged a b old r ↔ Merged b a old r :=
  or_congr (and_congr_right' and_comm) or_comm

theorem isOf_of_mem_lastKeys (ha : a.Own old) {r : ρ} (hr : r ∈ (lastKeys a.wanted).map ofKey) :
    isOf a.customer r = true ∧ ∀ name, name ≠ a.customer → isOf name r = false := by
  obtain ⟨k, hk, rfl⟩ := List.mem_map.1 hr
  have hk := (lastKey_mem (mem_lastKeys.1 hk)).1
  exact ⟨ha.isOf_ofKey hk, fun name hname => ha.not_isOf_ofKey hname hk⟩

/-- The rows of either customer realm are those of its last keys. -/
theorem reads_merged (hids : DistinctIds new) (ha : a.Own old) (hb : b.Own old)
    (hne : a.customer ≠ b.customer) (hnew : ∀ r, r ∈ new ↔ Merged a b old r) :
    ∃ keys, Reads a.customer new keys ∧ keys.Perm (lastKeys a.wanted) := by
  refine exists_reads hids fun r => ?_
  rw [hnew]
  constructor
  · rintro ⟨⟨-, ⟨hnot, -⟩, -⟩ | hr | hr, hof⟩
    · exact absurd hof (Bool.eq_false_iff.1 hnot)
    · exact hr
    · exact absurd hof (Bool.eq_false_iff.1 ((isOf_of_mem_lastKeys hb hr).2 _ hne))
  · intro hr
    exact ⟨.inr (.inl hr), (isOf_of_mem_lastKeys ha hr).1⟩

end Merged

/-! ### Two plans -/

/-- Two plans one after the other.  The first goes by the old table, and so does the second one if
it is early, and else by what the first one made of it. -/
structure Successive (a b : Wish) (early : Prop) (old mid new : List ρ)
    (e e' : List ContextKey) : Prop where
  read : Reads a.customer old e
  first : mid = applied (plan e a.wanted) old
  readEarly : early → Reads b.customer old e'
  readLate : ¬ early → Reads b.customer mid e'
  second : new = applied (plan e' b.wanted) mid

namespace Successive

variable {a b : Wish} {early : Prop} {old mid new : List ρ} {e e' : List ContextKey}

theorem distinct_mid (h : Successive a b early old mid new e e') (hids : DistinctIds old) :
    DistinctIds mid := by
  rw [h.first]
  exact distinctIds_applied _ hids

theorem distinct_new (h : Successive a b early old mid new e e') (hids : DistinctIds old) :
    DistinctIds new := by
  rw [h.second]
  exact distinctIds_applied _ (h.distinct_mid hids)

theorem filter_mid (h : Successive a b early old mid new e e') (hids : DistinctIds old)
    (ha : a.Own old) {name : String} (hname : name ≠ a.customer) :
    mid.filter (isOf name) = old.filter (isOf name) := by
  rw [h.first]
  exact filter_other ha hname fun r hr hof => not_wanted_of_read hids h.read hname hr hof

/-- A row of the table between the plans is an old one that the first plan did not go by, or that of
a key of the first plan. -/
theorem mem_mid (h : Successive a b early old mid new e e') (hids : DistinctIds old) {r : ρ} :
    r ∈ mid ↔ (r ∈ old ∧ isOf a.customer r = false ∧ isWanted a.wanted r = false) ∨
      r ∈ (lastKeys a.wanted).map ofKey := by
  rw [h.first, mem_applied_plan hids]
  refine or_congr_left (and_congr_right fun hr => ?_)
  rw [isWanted_of_read hids h.read hr]

theorem mem_new (h : Successive a b early old mid new e e') (hids : DistinctIds old) {r : ρ} :
    r ∈ new ↔ (r ∈ mid ∧ isWanted e' r = false ∧ isWanted b.wanted r = false) ∨
      r ∈ (lastKeys b.wanted).map ofKey := by
  rw [h.second, mem_applied_plan (h.distinct_mid hids)]

theorem own_mid (h : Successive a b early old mid new e e') (ha : a.Own old) (hb : b.Own old)
    (hshared : ∀ k ∈ a.wanted, ∀ k' ∈ b.wanted, k.id = k'.id → a.customer = b.customer) :
    b.Own mid where
  named := hb.named
  free k hk r hr hid name hof := by
    rw [h.first] at hr
    rcases mem_applied hr with hr | ⟨k', hk', rfl⟩
    · exact hb.free k hk r hr hid name hof
    · -- the row was put in for the first customer realm
      have hk' := upsert_mem_plan.1 hk'
      have hids : k'.id = k.id := Option.some.inj ((id_ofKey k').symm.trans hid)
      rw [← hshared k' hk' k hk hids]
      exact isOf_unique hof (ha.isOf_ofKey hk')

/-! ### Plans for two customer realms -/

section Apart

variable (h : Successive a b early old mid new e e') (hids : DistinctIds old) (ha : a.Own old)
  (hne : b.customer ≠ a.customer)
  (hshared : ∀ k ∈ a.wanted, ∀ k' ∈ b.wanted, k.id ≠ k'.id)

include h hids ha hne

/-- What the second plan goes by is what is there when it is carried out, -/
theorem reads_mid : Reads b.customer mid e' := by
  by_cases hearly : early
  · exact (h.readEarly hearly).congr (h.filter_mid hids ha hne)
  · exact h.readLate hearly

/-- and what was there in the beginning. -/
theorem reads_old : Reads b.customer old e' :=
  (h.reads_mid hids ha hne).congr (h.filter_mid hids ha hne).symm

include hshared

theorem mem_apart {r : ρ} : r ∈ new ↔ Merged a b old r := by
  -- What the first call puts in is no row of the second customer and has none of its
  -- identifiers, so the second call neither deletes nor overwrites it.
  have hput : r ∈ (lastKeys a.wanted).map ofKey →
      isOf b.customer r = false ∧ isWanted b.wanted r = false := by
    intro hr
    obtain ⟨k, hmem, rfl⟩ := List.mem_map.1 hr
    have hk := (lastKey_mem (mem_lastKeys.1 hmem)).1
    refine ⟨ha.not_isOf_ofKey hne hk, ?_⟩
    rw [← Bool.not_eq_true, isWanted_iff]
    rintro ⟨i, hi, hmem'⟩
    obtain ⟨k', hk', rfl⟩ := List.mem_map.1 hmem'
    exact hshared k hk k' hk' (Option.some.inj ((id_ofKey k).symm.trans hi))
  have hexisting : r ∈ mid → isWanted e' r = isOf b.customer r :=
    isWanted_of_read (h.distinct_mid hids) (h.reads_mid hids ha hne)
  rw [h.mem_new hids, Merged, ← or_assoc]
  refine or_congr_left ?_
  constructor
  · rintro ⟨hr, hout, hnot⟩
    rw [hexisting hr] at hout
    rcases (h.mem_mid hids).1 hr with ⟨hold, houta, hnota⟩ | hr
    · exact .inl ⟨hold, ⟨houta, hnota⟩, hout, hnot⟩
    · exact .inr hr
  · rintro (⟨hold, hfirst, hout, hnot⟩ | hr)
    · have hr := (h.mem_mid hids).2 (.inl ⟨hold, hfirst⟩)
      rw [← hexisting hr] at hout
      exact ⟨hr, hout, hnot⟩
    · have hmid := (h.mem_mid hids).2 (.inr hr)
      obtain ⟨hout, hnot⟩ := hput hr
      rw [← hexisting hmid] at hout
      exact ⟨hmid, hout, hnot⟩

end Apart

/-! ### Plans for one customer realm -/

section Same

variable (h : Successive a b early old mid new e e') (hids : DistinctIds old) (ha : a.Own old)
  (hb : b.Own old) (hsame : b.customer = a.customer)

include h hids ha hb hsame

/-- The rows of the customer realm are those of the second call's last keys and, if that one had
read before, those of the first call's which are wanted by none of them and had no row. -/
theorem mem_same {r : ρ} : r ∈ new ∧ isOf b.customer r = true ↔
    r ∈ (lastKeys b.wanted).map ofKey ∨
      early ∧ isWanted b.wanted r = false ∧ ∃ k ∈ lastKeys a.wanted, r = ofKey k ∧
        ∀ s ∈ old, isOf b.customer s = true → KeyRow.id s ≠ some k.id := by
  have hmid {r : ρ} (hr : r ∈ mid) (hof : isOf b.customer r = true) :
      r ∈ (lastKeys a.wanted).map ofKey := by
    rcases (h.mem_mid hids).1 hr with ⟨-, hout, -⟩ | hr
    · rw [← hsame, hof] at hout
      cases hout
    · exact hr
  -- which keys are not among those that the second plan goes by
  have hunread (hearly : early) {k : ContextKey} : isWanted e' (ofKey k : ρ) = false ↔
      ∀ s ∈ old, isOf b.customer s = true → KeyRow.id s ≠ some k.id := by
    rw [← Bool.not_eq_true, isWanted_ofKey_iff (h.readEarly hearly)]
    push Not
    rfl
  rw [h.mem_new hids]
  constructor
  · rintro ⟨⟨hr, hout, hnot⟩ | hr, hof⟩
    · by_cases hearly : early
      · obtain ⟨k, hk, rfl⟩ := List.mem_map.1 (hmid hr hof)
        exact .inr ⟨hearly, hnot, k, hk, rfl, (hunread hearly).1 hout⟩
      · -- the second plan goes by all rows of the customer realm
        rw [isWanted_of_read (h.distinct_mid hids) (h.readLate hearly) hr, hof] at hout
        cases hout
    · exact .inl hr
  · rintro (hr | ⟨hearly, hnot, k, hk, rfl, hrows⟩)
    · exact ⟨.inr hr, (isOf_of_mem_lastKeys hb hr).1⟩
    · have hr : (ofKey k : ρ) ∈ (lastKeys a.wanted).map ofKey := List.mem_map_of_mem hk
      refine ⟨.inl ⟨(h.mem_mid hids).2 (.inr hr), (hunread hearly).2 hrows, hnot⟩, ?_⟩
      rw [hsame]
      exact (isOf_of_mem_lastKeys ha hr).1

/-- Other customer realms have the rows that they had. -/
theorem filter_new_same {name : String} (hname : name ≠ b.customer) :
    new.filter (isOf name) = old.filter (isOf name) := by
  have hnamea : name ≠ a.customer := fun heq => hname (heq.trans hsame.symm)
  have hmid := h.filter_mid hids ha hnamea
  have hb' : b.Own mid := h.own_mid ha hb fun _ _ _ _ _ => hsame.symm
  rw [h.second, ← hmid]
  refine filter_other hb' hname fun r hr hof => ?_
  by_cases hearly : early
  · have hold : r ∈ old := (List.mem_filter.1 (hmid ▸ List.mem_filter.2 ⟨hr, hof⟩)).1
    exact not_wanted_of_read hids (h.readEarly hearly) hname hold hof
  · exact not_wanted_of_read (h.distinct_mid hids) (h.readLate hearly) hname hr hof

end Same

end Successive

/-- What is left of two calls for a customer realm of which the second one commits last: all of its
keys, and those of the first one that it had not read and that had no row before. -/
structure LastWins (customer : String) (first last : List ContextKey) (early : Prop)
    (old new : List ρ) : Prop where
  kept : ∀ k ∈ last, ofKey k ∈ new
  own : ∀ r ∈ new, isOf customer r = true → (∃ k ∈ last, r = ofKey k) ∨ ∃ k ∈ first, r = ofKey k
  left : ∀ k ∈ first, k.id ∉ last.map ContextKey.id →
    ((∃ r ∈ new, isOf customer r = true ∧ KeyRow.id r = some k.id) ↔
      early ∧ ∀ r ∈ old, isOf customer r = true → KeyRow.id r ≠ some k.id)
  others : ∀ name, name ≠ customer → new.filter (isOf name) = old.filter (isOf name)
  distinct : DistinctIds new

theorem Successive.lastWins {a b : Wish} {early : Prop} {old mid new : List ρ}
    {e e' : List ContextKey} (h : Successive a b early old mid new e e') (hids : DistinctIds old)
    (ha : a.Own old) (hb : b.Own old) (hsame : b.customer = a.customer)
    (hnodupa : (a.wanted.map ContextKey.id).Nodup)
    (hnodupb : (b.wanted.map ContextKey.id).Nodup) :
    LastWins b.customer a.wanted b.wanted early old new := by
  have hmem {r : ρ} := h.mem_same hids ha hb hsame (r := r)
  rw [lastKeys_of_nodup hnodupa, lastKeys_of_nodup hnodupb] at hmem
  -- A row of the customer afterwards is one of the second list, or one of the first list that
  -- the second call could not see and so could not delete.
  refine ⟨fun k hk => ?_, fun r hr hof => ?_, fun k hk hnot => ⟨?_, ?_⟩,
    fun name hname => h.filter_new_same hids ha hb hsame hname, h.distinct_new hids⟩
  · exact (hmem.2 (.inl (List.mem_map_of_mem hk))).1
  · rcases hmem.1 ⟨hr, hof⟩ with hr | ⟨-, -, k, hk, heq, -⟩
    · obtain ⟨k, hk, heq⟩ := List.mem_map.1 hr
      exact .inl ⟨k, hk, heq.symm⟩
    · exact .inr ⟨k, hk, heq⟩
  · rintro ⟨r, hr, hof, hid⟩
    rcases hmem.1 ⟨hr, hof⟩ with hr | ⟨hearly, -, k', -, rfl, hrows⟩
    · obtain ⟨k', hk', rfl⟩ := List.mem_map.1 hr
      rw [id_ofKey] at hid
      exact absurd (List.mem_map.2 ⟨k', hk', Option.some.inj hid⟩) hnot
    · rw [← hid, id_ofKey]
      exact ⟨hearly, hrows⟩
  · rintro ⟨hearly, hrows⟩
    have hunwanted : isWanted b.wanted (ofKey k : ρ) = false := by
      rw [← Bool.not_eq_true, isWanted_iff]
      rintro ⟨i, hi, hin⟩
      rw [id_ofKey] at hi
      cases hi
      exact hnot hin
    obtain ⟨hr, hof⟩ := hmem.2 (.inr ⟨hearly, hunwanted, k, hk, rfl, hrows⟩)
    exact ⟨ofKey k, hr, hof, id_ofKey k⟩

end Tables

end RealmRegistry
