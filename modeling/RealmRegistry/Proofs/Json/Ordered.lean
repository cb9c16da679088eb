/-
What is read of a text has its members in order.

The members of an object are put into the order of their keys when its closing bracket is read, and
their values were read before.  So nothing is left to be sorted in a value that is read, at any
level.

* `InOrder` — sorting a value changes nothing;
* `inOrder_list`, `inOrder_object` — what this says of the levels of a value;
* `inOrder_parse` — values that are read are in order.
-/
import RealmRegistry.Proofs.Json.Members

namespace RealmRegistry.Json

open RealmRegistry.Text

/-! ### Values -/

/-- All members of a value are in the order of their keys, and no key is repeated. -/
def InOrder (v : Json) : Prop := v.sorted = v

theorem map_eq_self_iff {α : Type} {f : α → α} {l : List α} : l.map f = l ↔ ∀ a ∈ l, f a = a := by
  simpa only [List.map_id, id_eq] using @List.map_inj_left _ _ l f id

@[simp] theorem inOrder_list {vs : List Json} : InOrder (list vs) ↔ ∀ v ∈ vs, v.InOrder := by
  rw [InOrder, sorted, list.injEq, sortedItems_eq_map, map_eq_self_iff]
  rfl

@[simp] theorem inOrder_object {ms : List (String × Json)} :
    InOrder (object ms) ↔ (ms.Pairwise fun a b => a.1 < b.1) ∧ ∀ m ∈ ms, m.2.InOrder := by
  rw [InOrder, sorted, object.injEq]
  constructor
  · intro h
    refine ⟨h ▸ (Dict.ofList (sortedMembers ms)).sorted, fun m hm => ?_⟩
    -- a member that was sorted is sorted again
    obtain ⟨m', -, rfl⟩ := mem_sorted_object (h.symm ▸ hm)
    exact sorted_sorted m'.2
  · rintro ⟨hkeys, hvalues⟩
    have hsame : sortedMembers ms = ms := by
      rw [sortedMembers_eq_map]
      exact map_eq_self_iff.2 fun m hm => Prod.ext rfl (hvalues m hm)
    rw [hsame]
    exact Dict.entries_ofList hkeys

/-! ### Readers -/

/-- All that a reader gives is in order. -/
def GivesInOrder (read : Reader (Fault SyntaxError) Json) : Prop :=
  ∀ ⦃s : List Char⦄ ⦃t : Taken Json s⦄, read s = .ok t → t.value.InOrder

variable {value listReader objectReader : Reader (Fault SyntaxError) Json}

theorem inOrder_readItems (h : GivesInOrder value) {first : Bool} {s : List Char} {vs : List Json}
    {r : Rest s} (hread : readItems value first s = .ok (vs, r)) : ∀ v ∈ vs, v.InOrder := by
  fun_induction readItems value first s generalizing vs with
  | case1 | case3 | case4 => cases hread
  | case2 =>
    cases hread
    exact fun _ hv => absurd hv List.not_mem_nil
  | case5 first s t hnext v hvalue vs' r' hrest ih =>
    cases hread
    exact List.forall_mem_cons.2 ⟨h hvalue, ih hrest⟩

theorem inOrder_readMembers (h : GivesInOrder value) {first : Bool} {s : List Char}
    {ms : List (String × Json)} {r : Rest s} (hread : readMembers value first s = .ok (ms, r)) :
    ∀ m ∈ ms, m.2.InOrder := by
  fun_induction readMembers value first s generalizing ms with
  | case2 =>
    cases hread
    exact fun _ hm => absurd hm List.not_mem_nil
  | case7 first s t hnext k hkey r hcolon v hvalue ms' r' hrest ih =>
    cases hread
    exact List.forall_mem_cons.2 ⟨h hvalue, ih hrest⟩
  | _ => cases hread

theorem givesInOrder_readList (h : GivesInOrder value) : GivesInOrder (readList value) := by
  intro s t hread
  rw [readList] at hread
  split at hread
  · cases hread
  next vs r hle hitems =>
    obtain ⟨u, -, rfl⟩ := map_eq_ok.1 hread
    exact inOrder_list.2 (inOrder_readItems h hitems)

theorem givesInOrder_readObject (h : GivesInOrder value) : GivesInOrder (readObject value) := by
  intro s t hread
  rw [readObject] at hread
  split at hread
  · cases hread
  next ms r hle hmembers =>
    obtain ⟨u, -, rfl⟩ := map_eq_ok.1 hread
    exact inOrder_object.2 ⟨(Dict.ofList ms).sorted, fun m hm =>
      inOrder_readMembers h hmembers m (Dict.mem_of_mem_ofList hm)⟩

/-- A value is in order from its first character on if what is in its brackets is. -/
theorem inOrder_readFrom (hlist : GivesInOrder listReader) (hobject : GivesInOrder objectReader)
    {c : Char} {r : List Char} {t : Taken Json (c :: r)}
    (hread : readFrom listReader objectReader c r = .ok t) : t.value.InOrder := by
  have hname (v : Json) {word : List Char} (hv : v.InOrder)
      (hread : readName v c word r = .ok t) : t.value.InOrder := by
    obtain ⟨u, -, rfl⟩ := map_eq_ok.1 hread
    exact hv
  rw [readFrom] at hread
  split at hread
  · exact hname .null rfl hread
  split at hread
  · exact hname (.flag true) rfl hread
  split at hread
  · exact hname (.flag false) rfl hread
  split at hread
  · obtain ⟨u, -, rfl⟩ := map_eq_ok.1 hread
    rfl
  split at hread
  · obtain ⟨u, hinner, rfl⟩ := map_eq_ok.1 hread
    exact show u.value.InOrder from hlist hinner
  split at hread
  · obtain ⟨u, hinner, rfl⟩ := map_eq_ok.1 hread
    exact show u.value.InOrder from hobject hinner
  split at hread
  · obtain ⟨⟨number, _, _⟩, -, rfl⟩ := map_eq_ok.1 hread
    cases number <;> rfl
  · cases hread

theorem givesInOrder_readWith (hlist : GivesInOrder listReader)
    (hobject : GivesInOrder objectReader) : GivesInOrder (readWith listReader objectReader) := by
  intro s t hread
  obtain ⟨c, r, u, -, hfrom, hsame, -⟩ := readWith_eq_ok.1 hread
  exact hsame ▸ inOrder_readFrom hlist hobject hfrom

theorem givesInOrder_readValue : ∀ depth, GivesInOrder (readValue depth)
  | 0 => givesInOrder_readWith (fun _ _ h => by cases h) (fun _ _ h => by cases h)
  | depth + 1 =>
    givesInOrder_readWith (givesInOrder_readList (givesInOrder_readValue depth))
      (givesInOrder_readObject (givesInOrder_readValue depth))

/-- A value that is read from a text is in order. -/
theorem inOrder_parse {s : List Char} {v : Json} (h : parse s = .ok v) : v.InOrder := by
  obtain ⟨t, hread, -, rfl⟩ := parse_eq_ok.1 h
  exact givesInOrder_readValue maxDepth hread

end RealmRegistry.Json
