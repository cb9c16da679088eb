/-
Scopes of several sets of names.

Without a set nothing is held back, and with sets those names are seen that are in one of them.  A
scope is nothing but that: the order of the sets, and how often a name is in them, leave no trace.

* `allows_foldl_restrict` — which actions a scope of several sets lets through;
* `exists_allowed` — the scope of at least one set is restricted to the names in its sets;
* `ofActionSets_congr` — scopes are the same if the same names are in their sets.
-/
import RealmRegistry.Access.Scope
import RealmRegistry.Proofs.Dict

namespace RealmRegistry

open Access

/-! ### Sets of names -/

namespace Access.NameSet

/-- Sets that contain the same names are the same. -/
theorem ext_contains {s t : NameSet} (h : ∀ n, s.contains n = t.contains n) : s = t := by
  refine Dict.ext_get? fun n => ?_
  have hsame : (s.get? n).isSome = (t.get? n).isSome := h n
  cases hs : s.get? n with
  | none =>
    rw [hs, Option.isSome_none] at hsame
    exact (Option.not_isSome_iff_eq_none.1 (Bool.eq_false_iff.1 hsame.symm)).symm
  | some u =>
    rw [hs, Option.isSome_some] at hsame
    obtain ⟨v, hv⟩ := Option.isSome_iff_exists.1 hsame.symm
    rw [hv]

@[simp] theorem mem_names {s : NameSet} {n : String} : n ∈ s.names ↔ s.contains n = true := by
  rw [contains, Option.isSome_iff_exists, names, List.mem_map]
  constructor
  · rintro ⟨e, he, rfl⟩
    exact ⟨e.2, (Dict.lookup_eq_some_of_nodup s.nodup_keys).2 he⟩
  · rintro ⟨u, hu⟩
    exact ⟨(n, u), (Dict.lookup_eq_some_of_nodup s.nodup_keys).1 hu, rfl⟩

end Access.NameSet

/-! ### Scopes of several sets -/

/-- Whether an action is in one of some sets. -/
def inUnion (sets : List (List String)) (action : String) : Bool :=
  sets.any fun s => s.contains action

@[simp] theorem inUnion_iff {sets : List (List String)} {action : String} :
    inUnion sets action = true ↔ ∃ s ∈ sets, action ∈ s := by
  simp [inUnion]

@[simp] theorem contains_names_foldl (sets : List (List String)) (s : Scope) (action : String) :
    (sets.foldl Scope.restrict s).names.contains action =
      (inUnion sets action || s.names.contains action) := by
  induction sets generalizing s with
  | nil => rfl
  | cons first sets ih =>
    have hfirst : (s.restrict first).names.contains action =
        (first.contains action || s.names.contains action) :=
      NameSet.contains_union s.names first action
    rw [List.foldl_cons, ih, hfirst, inUnion, inUnion, List.any_cons]
    cases first.contains action <;> simp

/-- A scope into which at least one set was merged lets those actions through that are in one of
its sets. -/
theorem allows_foldl_restrict {sets : List (List String)} (h : sets ≠ []) (action : String) :
    (sets.foldl Scope.restrict .unrestricted).allows action = inUnion sets action := by
  have hnames := contains_names_foldl sets .unrestricted action
  rw [show (Scope.names .unrestricted).contains action = false from rfl, Bool.or_false] at hnames
  -- whatever the last set is, the scope is restricted once it is merged
  obtain ⟨sets, last, rfl⟩ := (List.eq_nil_or_concat sets).resolve_left h
  rw [← hnames, List.concat_eq_append, List.foldl_append]
  rfl

/-- The scope of at least one set is restricted to the names that are in its sets. -/
theorem exists_allowed {sets : List (List String)} (h : sets ≠ []) :
    ∃ allowed : NameSet, Scope.ofActionSets sets = .restricted allowed ∧
      ∀ action, allowed.contains action = inUnion sets action := by
  have hallows := allows_foldl_restrict h
  obtain ⟨earlier, last, rfl⟩ := (List.eq_nil_or_concat sets).resolve_left h
  have hscope : Scope.ofActionSets (earlier.concat last) =
      .restricted ((Scope.ofActionSets earlier).names.union last) := by
    rw [List.concat_eq_append, Scope.ofActionSets, List.foldl_append]
    rfl
  refine ⟨_, hscope, fun action => ?_⟩
  rw [← hallows action, ← Scope.ofActionSets, hscope]
  rfl

/-- Only without a set nothing is held back. -/
@[simp] theorem ofActionSets_eq_unrestricted_iff {sets : List (List String)} :
    Scope.ofActionSets sets = .unrestricted ↔ sets = [] := by
  constructor
  · intro h
    refine Decidable.byContradiction fun hne => ?_
    obtain ⟨allowed, hscope, -⟩ := exists_allowed hne
    cases h.symm.trans hscope
  · rintro rfl
    rfl

/-- Scopes are the same if the same names are in their sets. -/
theorem ofActionSets_congr {sets sets' : List (List String)} (hempty : sets = [] ↔ sets' = [])
    (h : ∀ action, inUnion sets action = inUnion sets' action) :
    Scope.ofActionSets sets = Scope.ofActionSets sets' := by
  by_cases hnone : sets = []
  · rw [hnone, hempty.1 hnone]
  · obtain ⟨s, hscope, hs⟩ := exists_allowed hnone
    obtain ⟨s', hscope', hs'⟩ := exists_allowed (mt hempty.2 hnone)
    have hsame : s = s' := NameSet.ext_contains fun n => by rw [hs, hs', h]
    rw [hscope, hscope', hsame]

end RealmRegistry
