/-
Dictionaries as lists of entries with different keys.

* `Dict.perm_entries_ofList` — entries with different keys are all there, in the order of the keys;
* `Dict.get?_ofList` — of some entries for a key the last one counts;
* `Dict.ext_get?` — dictionaries with the same values are the same.
-/
import Mathlib.Logic.Basic
import RealmRegistry.Dict

namespace RealmRegistry

namespace Dict

variable {α : Type}

theorem perm_insertEntry {k : String} {v : α} {l : List (String × α)}
    (h : k ∉ l.map Prod.fst) : (insertEntry k v l).Perm ((k, v) :: l) := by
  induction l with
  | nil => exact .refl _
  | cons e r ih =>
    obtain ⟨k', v'⟩ := e
    rw [List.map_cons, List.mem_cons, not_or] at h
    rw [insertEntry, if_neg h.1]
    split
    · exact .refl _
    · exact ((ih h.2).cons _).trans (.swap _ _ _)

theorem perm_foldl_insert {d : Dict α} {l : List (String × α)}
    (h : ((d.entries ++ l).map Prod.fst).Nodup) :
    (l.foldl (fun d e => d.insert e.1 e.2) d).entries.Perm (d.entries ++ l) := by
  induction l generalizing d with
  | nil => rw [List.append_nil]; exact .refl _
  | cons e r ih =>
    have hmoved : (d.entries ++ e :: r).Perm (e :: (d.entries ++ r)) := List.perm_middle
    have hmiddle := hmoved.map Prod.fst
    have hnew : e.1 ∉ d.entries.map Prod.fst := fun hmem => by
      have hnodup := List.nodup_cons.1 (hmiddle.nodup_iff.1 h)
      rw [List.map_append, List.mem_append, not_or] at hnodup
      exact hnodup.1.1 hmem
    have hinsert : (d.insert e.1 e.2).entries.Perm (e :: d.entries) := perm_insertEntry hnew
    have hstep : ((d.insert e.1 e.2).entries ++ r).Perm (d.entries ++ e :: r) :=
      (hinsert.append_right r).trans hmoved.symm
    exact (ih ((hstep.map Prod.fst).nodup_iff.2 h)).trans hstep

/-- Entries with different keys are all there when they stand in the order of their keys. -/
theorem perm_entries_ofList {l : List (String × α)} (h : (l.map Prod.fst).Nodup) :
    (ofList l).entries.Perm l :=
  perm_foldl_insert (d := empty) h

theorem nodup_keys (d : Dict α) : (d.entries.map Prod.fst).Nodup := by
  refine List.pairwise_map.2 (d.sorted.imp fun {a b} hlt heq => ?_)
  rw [heq] at hlt
  exact String.lt_irrefl _ hlt

/-- The entries of a dictionary make it up in any order. -/
theorem ofList_of_perm {d : Dict α} {l : List (String × α)} (h : l.Perm d.entries) :
    ofList l = d := by
  have hkeys : (l.map Prod.fst).Nodup := (h.map Prod.fst).nodup_iff.2 d.nodup_keys
  refine Dict.ext (((perm_entries_ofList hkeys).trans h).eq_of_pairwise ?_ (ofList l).sorted
    d.sorted)
  intro a b _ _ hab hba
  exact absurd hba (String.lt_asymm hab)

theorem get?_foldl_insert (d : Dict α) (l : List (String × α)) (k : String) :
    (l.foldl (fun d e => d.insert e.1 e.2) d).get? k = (l.reverse.lookup k).or (d.get? k) := by
  induction l generalizing d with
  | nil => rfl
  | cons e r ih =>
    rw [List.foldl_cons, ih, List.reverse_cons, List.lookup_append, get?_insert, Option.or_assoc]
    refine congrArg _ ?_
    by_cases h : k = e.1
    · rw [if_pos h, List.lookup_cons, beq_iff_eq.2 h]
      rfl
    · rw [if_neg h, List.lookup_cons, beq_eq_false_iff_ne.2 h]
      rfl

/-- Of some entries for a key the last one counts. -/
theorem get?_ofList (l : List (String × α)) (k : String) :
    (ofList l).get? k = l.reverse.lookup k := by
  rw [ofList, get?_foldl_insert]
  exact Option.or_none

theorem lookup_eq_some_of_nodup {l : List (String × α)} (h : (l.map Prod.fst).Nodup) {k : String}
    {v : α} : l.lookup k = some v ↔ (k, v) ∈ l := by
  induction l with
  | nil => simp
  | cons e r ih =>
    obtain ⟨hnew, hr⟩ := List.nodup_cons.1 h
    rw [List.lookup_cons, List.mem_cons]
    by_cases hk : k = e.1
    · rw [beq_iff_eq.2 hk]
      constructor
      · intro h
        cases h
        exact .inl (Prod.ext hk rfl)
      · rintro (rfl | hmem)
        · rfl
        · exact absurd (hk ▸ List.mem_map_of_mem hmem) hnew
    · rw [beq_eq_false_iff_ne.2 hk]
      refine (ih hr).trans ⟨.inr, fun h => h.resolve_left ?_⟩
      rintro rfl
      exact hk rfl

theorem lookup_reverse {l : List (String × α)} (h : (l.map Prod.fst).Nodup) (k : String) :
    l.reverse.lookup k = l.lookup k := by
  have hreverse : (l.reverse.map Prod.fst).Nodup :=
    ((List.reverse_perm l).map Prod.fst).nodup_iff.2 h
  refine Option.ext fun v => ?_
  rw [lookup_eq_some_of_nodup h, lookup_eq_some_of_nodup hreverse, List.mem_reverse]

theorem get?_ofList_of_nodup {l : List (String × α)} (h : (l.map Prod.fst).Nodup) (k : String) :
    (ofList l).get? k = l.lookup k := by
  refine Option.ext fun v => ?_
  rw [get?, lookup_eq_some_of_nodup (nodup_keys _), lookup_eq_some_of_nodup h,
    (perm_entries_ofList h).mem_iff]

/-- Dictionaries with the same values are the same. -/
theorem ext_get? {d e : Dict α} (h : ∀ k, d.get? k = e.get? k) : d = e := by
  have hmem (m : String × α) : m ∈ d.entries ↔ m ∈ e.entries := by
    rw [← lookup_eq_some_of_nodup d.nodup_keys, ← lookup_eq_some_of_nodup e.nodup_keys]
    exact (h m.1).congr_left
  have hnodup (d : Dict α) : d.entries.Nodup := d.sorted.imp fun hlt heq => by
    subst heq
    exact String.lt_irrefl _ hlt
  have hperm : d.entries.Perm e.entries :=
    (List.perm_ext_iff_of_nodup (hnodup d) (hnodup e)).2 hmem
  rw [← ofList_of_perm hperm, ofList_entries]

end Dict

end RealmRegistry
