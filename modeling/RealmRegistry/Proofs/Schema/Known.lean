/-
The part of a value that a shape knows.

A record has fields for some keys and passes over members with others, at whatever level of the
value it is.  Null in a field that may be unset says no more than no member at all.  What is left
without these members is read like the whole, and so are two values of which the same is left.

* `Shape.known` — what is left of a value;
* `Shape.ofDocument_known` — nothing else is read of it;
* `Shape.ofDocument_congr` — the same is read of two objects that have the same left for each key of
  a field.
-/
import RealmRegistry.Proofs.Json.Ordered
import RealmRegistry.Proofs.Schema.Passes

namespace RealmRegistry.Schema

/-! ### What is left of a value -/

/-- Whether a member with this value is one; null is none if the field may be unset. -/
def Presence.counts : Presence → Json → Bool
  | .optional, .null => false
  | .retired, .null => false
  | _, _ => true

mutual

/-- A value without the members that are passed over, at any level. -/
def Shape.known : Shape → Json → Json
  | .list item, .list vs => .list (vs.map item.known)
  | .dict item, .object ms => .object (ms.map fun m => (m.1, item.known m.2))
  | .record _ fields, .object ms =>
    .object (ms.filterMap fun m => (fields.known? m.1 m.2).map fun v => (m.1, v))
  | _, v => v

/-- What is left of the value of a member, unless the member is passed over. -/
def Layout.known? : Layout → String → Json → Option Json
  | .nil, _, _ => none
  | .cons key p s rest, k, v =>
    if k = key then if p.counts v then some (s.known v) else none
    else rest.known? k v

end

/-- The members that are not passed over. -/
def Layout.knownMembers (fields : Layout) (ms : List (String × Json)) : List (String × Json) :=
  ms.filterMap fun m => (fields.known? m.1 m.2).map fun v => (m.1, v)

section Members

variable {fields : Layout} {ms : List (String × Json)}

theorem Layout.known?_of_not_mem : ∀ {fields : Layout} {k : String} (v : Json), k ∉ fields.keys →
    fields.known? k v = none
  | .nil, _, _, _ => rfl
  | .cons key p s rest, k, v, hk => by
    rw [Layout.keys, List.mem_cons, not_or] at hk
    rw [Layout.known?, if_neg hk.1, known?_of_not_mem v hk.2]

theorem Layout.keys_knownMembers (fields : Layout) (ms : List (String × Json)) :
    ((fields.knownMembers ms).map Prod.fst).Sublist (ms.map Prod.fst) := by
  induction ms with
  | nil => exact .slnil
  | cons m r ih =>
    rw [knownMembers, List.filterMap_cons]
    cases fields.known? m.1 m.2 with
    | none => exact ih.cons _
    | some v => exact ih.cons_cons _

/-- What is left under a key is what is left of its member. -/
theorem Layout.lookup_knownMembers (honce : (ms.map Prod.fst).Nodup) (k : String) :
    (fields.knownMembers ms).lookup k = (ms.lookup k).bind (fields.known? k) := by
  have hleft : ((fields.knownMembers ms).map Prod.fst).Nodup :=
    honce.sublist (fields.keys_knownMembers ms)
  refine Option.ext fun v => ?_
  rw [Dict.lookup_eq_some_of_nodup hleft, Option.bind_eq_some_iff, knownMembers, List.mem_filterMap]
  constructor
  · rintro ⟨⟨k', u⟩, hm, hv⟩
    obtain ⟨_, hknown, ⟨⟩⟩ := Option.map_eq_some_iff.1 hv
    exact ⟨u, (Dict.lookup_eq_some_of_nodup honce).2 hm, hknown⟩
  · rintro ⟨u, hu, hknown⟩
    refine ⟨(k, u), (Dict.lookup_eq_some_of_nodup honce).1 hu, ?_⟩
    rw [hknown]
    rfl

/-- The same is left of two dictionaries if the same is left for each key of a field. -/
theorem Layout.knownMembers_congr {d e : Dict Json}
    (h : ∀ k ∈ fields.keys,
      (d.get? k).bind (fields.known? k) = (e.get? k).bind (fields.known? k)) :
    fields.knownMembers d.entries = fields.knownMembers e.entries := by
  have hleft (d : Dict Json) : (fields.knownMembers d.entries).Pairwise fun a b => a.1 < b.1 :=
    List.pairwise_map.1 ((List.pairwise_map.2 d.sorted).sublist (fields.keys_knownMembers d.entries))
  -- what is left are dictionaries again, so it is compared key by key
  let left (d : Dict Json) : Dict Json := ⟨fields.knownMembers d.entries, hleft d⟩
  have hget (d : Dict Json) (k : String) : (left d).get? k = (d.get? k).bind (fields.known? k) :=
    lookup_knownMembers d.nodup_keys k
  refine congrArg Dict.entries (show left d = left e from Dict.ext_get? fun k => ?_)
  rw [hget, hget]
  by_cases hk : k ∈ fields.keys
  · exact h k hk
  · have hnone : fields.known? k = fun _ => none := funext fun v => known?_of_not_mem v hk
    rw [hnone, Option.bind_fun_none, Option.bind_fun_none]

end Members

/-! ### What is read -/

/-- A value is null if what is left of it is. -/
@[simp] theorem Shape.known_eq_null (s : Shape) (v : Json) : s.known v = .null ↔ v = .null := by
  cases s <;> cases v <;> simp [Shape.known]

section Fields

variable {p : Presence} {s : Shape} {v : Json}

theorem Presence.optional_of_ne_null {α : Type} {item : Json → Except Mismatch α}
    (hv : v ≠ .null) : Presence.ofDocument.optional item v = (item v).map some := by
  cases v with
  | null => exact absurd rfl hv
  | _ => rfl

theorem Presence.ofDocument_known (p : Presence)
    (h : s.ofDocument (s.known v) = s.ofDocument v) :
    p.ofDocument s.ofDocument (s.known v) = p.ofDocument s.ofDocument v := by
  have hoptional : Presence.ofDocument.optional s.ofDocument (s.known v) =
      Presence.ofDocument.optional s.ofDocument v := by
    by_cases hv : v = .null
    · rw [(s.known_eq_null v).2 hv, hv]
    · have hknown : s.known v ≠ .null := mt (s.known_eq_null v).1 hv
      rw [optional_of_ne_null hknown, optional_of_ne_null hv, h]
  cases p with
  | required => exact h
  | optional => exact hoptional
  | retired => exact hoptional
  | defaulted _ _ => exact h

/-- A member that is none is read like an absent one. -/
theorem Presence.absent_of_not_counts (h : p.counts v = false) :
    ∃ a, p.absent? s = some a ∧ p.ofDocument s.ofDocument v = .ok a := by
  cases p <;> cases v <;> cases h <;> exact ⟨none, rfl, rfl⟩

/-- Each field of a layout reads what is left of a value as it reads the value. -/
def Layout.ReadsKnown : Layout → Prop
  | .nil => True
  | .cons _ _ s rest =>
    (∀ v : Json, v.InOrder → s.ofDocument (s.known v) = s.ofDocument v) ∧ rest.ReadsKnown

variable {fields : Layout} {ms : List (String × Json)}

/-- Nothing is complained about in a member that is passed over. -/
theorem Layout.check_of_known?_none : ∀ {fields : Layout} {k : String} {v : Json},
    fields.known? k v = none → fields.check k v = .ok ()
  | .nil, _, _, _ => rfl
  | .cons key p s rest, k, v, h => by
    rw [Layout.known?] at h
    rw [Layout.check]
    split at h
    next hk =>
      split at h
      · cases h
      next hcounts =>
        obtain ⟨a, -, hread⟩ := Presence.absent_of_not_counts (s := s) (Bool.eq_false_iff.2 hcounts)
        rw [if_pos hk, hread]
        rfl
    next hk =>
      rw [if_neg hk]
      exact check_of_known?_none h

theorem Layout.check_known : ∀ {fields : Layout} {k : String} {u v : Json}, fields.ReadsKnown →
    v.InOrder → fields.known? k v = some u → fields.check k u = fields.check k v
  | .cons key p s rest, k, u, v, ⟨hs, hrest⟩, hv, h => by
    rw [Layout.known?] at h
    rw [Layout.check, Layout.check]
    split at h
    next hk =>
      split at h
      · cases h
        rw [if_pos hk, if_pos hk, p.ofDocument_known (hs v hv)]
      · cases h
    next hk =>
      rw [if_neg hk, if_neg hk]
      exact check_known hrest hv h

/-- The first complaint about the members that are left is the first one about all of them. -/
theorem Layout.checkAll_known (h : fields.ReadsKnown) (hms : ∀ m ∈ ms, m.2.InOrder) :
    fields.checkAll (fields.knownMembers ms) = fields.checkAll ms := by
  induction ms with
  | nil => rfl
  | cons m r ih =>
    obtain ⟨hm, hr⟩ := List.forall_mem_cons.1 hms
    have ih := ih hr
    rw [knownMembers] at ih ⊢
    rw [List.filterMap_cons, checkAll]
    cases hknown : fields.known? m.1 m.2 with
    | none =>
      rw [check_of_known?_none hknown]
      exact ih
    | some u =>
      rw [← check_known h hm hknown, ← ih]
      rfl

/-- The record is filled with what is left as with all. -/
theorem Layout.fill_known {found found' : String → Option Json}
    (hfound : ∀ k v, found k = some v → v.InOrder) : ∀ {fields : Layout}, fields.isSound = true →
      fields.ReadsKnown → (∀ k ∈ fields.keys, found' k = (found k).bind (fields.known? k)) →
      fields.fill found' = fields.fill found
  | .nil, _, _, _ => rfl
  | .cons key p s rest, hsound, ⟨hs, hrest⟩, hsame => by
    obtain ⟨hkey, -, hsound⟩ := Layout.isSound_cons.1 hsound
    have hmore : rest.fill found' = rest.fill found := by
      refine fill_known hfound hsound hrest fun k hk => ?_
      have hne : k ≠ key := fun heq => hkey (heq ▸ hk)
      rw [hsame k (List.mem_cons_of_mem _ hk)]
      refine congrArg _ (funext fun v => ?_)
      rw [Layout.known?, if_neg hne]
    have hslot := hsame key List.mem_cons_self
    rw [Layout.fill, Layout.fill, hslot, hmore]
    cases hv : found key with
    | none => rfl
    | some v =>
      rw [Option.bind_some, Layout.known?, if_pos rfl]
      by_cases hcounts : p.counts v = true
      · simp only [if_pos hcounts, p.ofDocument_known (hs v (hfound key v hv))]
      · obtain ⟨a, habsent, hread⟩ :=
          Presence.absent_of_not_counts (s := s) (Bool.eq_false_iff.2 hcounts)
        simp only [if_neg hcounts, habsent, hread]

/-- A record is read of the members that are left as of all. -/
theorem Layout.ofDocument_knownMembers {title : String} (fields : Layout)
    (hsound : fields.isSound = true) (h : fields.ReadsKnown) (hms : (Json.object ms).InOrder) :
    (Shape.record title fields).ofDocument (Json.object (fields.knownMembers ms)) =
      (Shape.record title fields).ofDocument (Json.object ms) := by
  obtain ⟨hkeys, hvalues⟩ := Json.inOrder_object.1 hms
  have honce : (ms.map Prod.fst).Nodup := Dict.nodup_keys ⟨ms, hkeys⟩
  have hleft : ((fields.knownMembers ms).map Prod.fst).Nodup :=
    honce.sublist (fields.keys_knownMembers ms)
  have hfill : fields.fill ((fields.knownMembers ms).lookup ·) = fields.fill (ms.lookup ·) :=
    fill_known (fun k v hv => hvalues (k, v) ((Dict.lookup_eq_some_of_nodup honce).1 hv)) hsound h
      fun k _ => lookup_knownMembers honce k
  rw [Shape.ofDocument_table hsound rfl hleft, Shape.ofDocument_table hsound rfl honce,
    checkAll_known h hvalues, hfill]

end Fields

theorem readAll_map {α : Type} {item : Json → Except Mismatch α} {f : Json → Json} {vs : List Json}
    (h : ∀ v ∈ vs, item (f v) = item v) : readAll item (vs.map f) = readAll item vs := by
  induction vs with
  | nil => rfl
  | cons v r ih =>
    obtain ⟨hv, hr⟩ := List.forall_mem_cons.1 h
    rw [List.map_cons, readAll, readAll, hv, ih hr]

theorem readEntries_map {α : Type} {item : Json → Except Mismatch α} {f : Json → Json}
    {ms : List (String × Json)} (h : ∀ m ∈ ms, item (f m.2) = item m.2) (d : Dict α) :
    readEntries item d (ms.map fun m => (m.1, f m.2)) = readEntries item d ms := by
  induction ms generalizing d with
  | nil => rfl
  | cons m r ih =>
    obtain ⟨hm, hr⟩ := List.forall_mem_cons.1 h
    rw [List.map_cons, readEntries, readEntries, hm]
    split
    · rfl
    · exact ih hr _

mutual

/-- Nothing is read of a value but what is left of it. -/
theorem Shape.ofDocument_known : ∀ (s : Shape) {v : Json}, s.isSound = true → v.InOrder →
    s.ofDocument (s.known v) = s.ofDocument v
  | .text, v, _, _ => rfl
  | .flag, v, _, _ => rfl
  | .word _, v, _, _ => rfl
  | .choice _ _, v, _, _ => rfl
  | .list item, v, hsound, hv => by
    cases v with
    | list vs =>
      have hitems := Json.inOrder_list.1 hv
      exact readAll_map fun u hu => item.ofDocument_known hsound (hitems u hu)
    | _ => rfl
  | .dict item, v, hsound, hv => by
    cases v with
    | object ms =>
      have hmembers := (Json.inOrder_object.1 hv).2
      exact readEntries_map (fun m hm => item.ofDocument_known hsound (hmembers m hm)) _
    | _ => rfl
  | .record title fields, v, hsound, hv => by
    cases v with
    | object ms => exact fields.ofDocument_knownMembers hsound (Layout.readsKnown hsound) hv
    | _ => rfl

theorem Layout.readsKnown : ∀ {fields : Layout}, fields.isSound = true → fields.ReadsKnown
  | .nil, _ => trivial
  | .cons key p s rest, hsound => by
    obtain ⟨-, hs, hrest⟩ := Layout.isSound_cons.1 hsound
    exact ⟨fun v hv => s.ofDocument_known hs hv, Layout.readsKnown hrest⟩

end

/-- The same record is read of two objects if the same is left of them for each key of a field. -/
theorem Shape.ofDocument_congr {s : Shape} {title : String} {fields : Layout}
    (hs : s = .record title fields) (hsound : fields.isSound = true) {d e : Dict Json}
    (hd : (Json.object d.entries).InOrder) (he : (Json.object e.entries).InOrder)
    (h : ∀ k ∈ fields.keys,
      (d.get? k).bind (fields.known? k) = (e.get? k).bind (fields.known? k)) :
    s.ofDocument (Json.object d.entries) = s.ofDocument (Json.object e.entries) := by
  subst hs
  have hreads := Layout.readsKnown hsound
  rw [← fields.ofDocument_knownMembers hsound hreads hd,
    ← fields.ofDocument_knownMembers hsound hreads he, Layout.knownMembers_congr h]

/-! ### Fields that may be unset -/

/-- Whether all fields may be unset. -/
def Layout.mayBeUnset : Layout → Bool
  | .nil => true
  | .cons _ p _ rest => (p = .optional || p = .retired) && rest.mayBeUnset

@[simp] theorem Layout.mayBeUnset_cons {key : String} {p : Presence} {s : Shape} {rest : Layout} :
    (Layout.cons key p s rest).mayBeUnset = true ↔
      (p = .optional ∨ p = .retired) ∧ rest.mayBeUnset = true := by
  simp only [Layout.mayBeUnset, Bool.and_eq_true, Bool.or_eq_true, decide_eq_true_eq]

/-- Null is passed over if all fields may be unset. -/
theorem Layout.known?_null : ∀ {fields : Layout} (k : String), fields.mayBeUnset = true →
    fields.known? k .null = none
  | .nil, _, _ => rfl
  | .cons key p s rest, k, h => by
    obtain ⟨hp, hrest⟩ := Layout.mayBeUnset_cons.1 h
    rw [Layout.known?, known?_null k hrest]
    rcases hp with rfl | rfl <;> exact ite_self _

end RealmRegistry.Schema
