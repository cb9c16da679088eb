/-
Shapes whose values can be told from what is written of them, and records that are read field by
field.

A shape is sound if no two fields of a record, and no two names of a choice, are the same.  What is
written of a record does not name its retired fields, so only `Settled` values, where nothing is in
those, can come back.  While the members of a written record are read, in whatever order, the draft
is a `Layout.sketch` of the record: the fields are there whose keys were read.

* `Shape.plain_toJson`, `Shape.depth_toJson_le` — what is written of a shape can be read back;
* `Presence.absent_of_unwritten` — a field that is not written has the value of an absent one;
* `Layout.fills_record` — members that each add their own field make up the record.
-/
import RealmRegistry.Proofs.Json.RoundTrip
import RealmRegistry.Schema.Json

namespace RealmRegistry.Schema

open RealmRegistry.Json (Plain PlainMembers FitsWord plainItems_iff plainMembers_iff)

/-! ### Sound shapes -/

mutual

/-- Whether names tell the fields of each record and the choices apart, and every word fits the
numbers of a document. -/
def Shape.isSound : Shape → Bool
  | .text => true
  | .flag => true
  | .word width => decide (width ≤ 64)
  | .choice first others => decide (choiceNames first others).Nodup
  | .list item => item.isSound
  | .dict item => item.isSound
  | .record _ fields => fields.isSound

/-- The same for each field of a record. -/
def Layout.isSound : Layout → Bool
  | .nil => true
  | .cons key _ s rest => decide (key ∉ rest.keys) && s.isSound && rest.isSound

end

@[simp] theorem Layout.isSound_cons {key : String} {p : Presence} {s : Shape} {rest : Layout} :
    (Layout.cons key p s rest).isSound = true ↔
      key ∉ rest.keys ∧ s.isSound = true ∧ rest.isSound = true := by
  simp only [Layout.isSound, Bool.and_eq_true, decide_eq_true_eq, and_assoc]

/-- Whether nothing is in a field of this presence that is not settled itself. -/
def Presence.Settled (p : Presence) {α : Type} (item : α → Prop) (v : p.Slot α) : Prop :=
  match p, v with
  | .required, v => item v
  | .optional, v => ∀ a, v = some a → item a
  | .retired, v => v = none
  | .defaulted _ _, v => item v

mutual

/-- Nothing is in the retired fields of a value. -/
def Shape.Settled : (s : Shape) → s.Carrier → Prop
  | .text, _ => True
  | .flag, _ => True
  | .word _, _ => True
  | .choice _ _, _ => True
  | .list item, v => ∀ a ∈ v, item.Settled a
  | .dict item, v => ∀ e ∈ v.entries, item.Settled e.2
  | .record _ fields, v => fields.Settled v

/-- Nothing is in the retired fields of a record. -/
def Layout.Settled : (fields : Layout) → fields.Carrier → Prop
  | .nil, _ => True
  | .cons _ p s rest, (v, more) => p.Settled s.Settled v ∧ rest.Settled more

end

mutual

/-- Whether a shape has no retired fields. -/
def Shape.isCurrent : Shape → Bool
  | .list item => item.isCurrent
  | .dict item => item.isCurrent
  | .record _ fields => fields.isCurrent
  | _ => true

/-- The same for each field of a record. -/
def Layout.isCurrent : Layout → Bool
  | .nil => true
  | .cons _ p s rest => decide (p ≠ .retired) && s.isCurrent && rest.isCurrent

end

theorem Presence.settled_of_forall {p : Presence} {α : Type} {item : α → Prop}
    (hp : p ≠ .retired) (hitem : ∀ a, item a) (v : p.Slot α) : p.Settled item v := by
  cases p with
  | required => exact hitem v
  | optional => exact fun a _ => hitem a
  | retired => exact absurd rfl hp
  | defaulted value whenEmpty => exact hitem v

mutual

/-- All values of a shape without retired fields are settled. -/
theorem Shape.settled_of_isCurrent : ∀ (s : Shape) (c : s.Carrier), s.isCurrent = true →
    s.Settled c
  | .text, _, _ => trivial
  | .flag, _, _ => trivial
  | .word _, _, _ => trivial
  | .choice _ _, _, _ => trivial
  | .list item, _, h => fun a _ => Shape.settled_of_isCurrent item a h
  | .dict item, _, h => fun e _ => Shape.settled_of_isCurrent item e.2 h
  | .record _ fields, c, h => Layout.settled_of_isCurrent fields c h

theorem Layout.settled_of_isCurrent : ∀ (fields : Layout) (c : fields.Carrier),
    fields.isCurrent = true → fields.Settled c
  | .nil, _, _ => trivial
  | .cons _ p s rest, (v, more), h => by
    simp only [Layout.isCurrent, Bool.and_eq_true, decide_eq_true_eq] at h
    obtain ⟨⟨hp, hs⟩, hrest⟩ := h
    have hitem : ∀ a, s.Settled a := fun a => Shape.settled_of_isCurrent s a hs
    exact ⟨Presence.settled_of_forall hp hitem v, Layout.settled_of_isCurrent rest more hrest⟩

end

/-- A type all values of which come back from what is written of them. -/
class Recoverable (α : Type) [Shaped α] : Prop where
  sound : (Shaped.shape α).isSound = true
  settled : ∀ a : α, (Shaped.shape α).Settled (Shaped.pack a)

theorem Recoverable.of_isCurrent {α : Type} [Shaped α]
    (hsound : (Shaped.shape α).isSound = true) (hcurrent : (Shaped.shape α).isCurrent = true) :
    Recoverable α where
  sound := hsound
  settled a := Shape.settled_of_isCurrent _ (Shaped.pack a) hcurrent

instance instRecoverableList {α : Type} [Shaped α] [Recoverable α] : Recoverable (List α) where
  sound := Recoverable.sound (α := α)
  settled l := by
    intro c hc
    obtain ⟨a, -, rfl⟩ := List.mem_map.1 hc
    exact Recoverable.settled a

/-! ### Written values -/

/-- A value that is written for a field is the settled value of the field. -/
theorem Presence.settled_of_written {p : Presence} {s : Shape} {v : p.Slot s.Carrier}
    {w : s.Carrier} (hv : p.Settled s.Settled v) (h : p.written? s v = some w) : s.Settled w := by
  cases p with
  | required =>
    cases h
    exact hv
  | optional => exact hv w h
  | retired => cases h
  | defaulted value whenEmpty =>
    simp only [Presence.written?] at h
    split at h
    · cases h
    · cases h
      exact hv

/-- A field that is not written has the value that stands for an absent one. -/
theorem Presence.absent_of_unwritten {p : Presence} {s : Shape} {v : p.Slot s.Carrier}
    (hv : p.Settled s.Settled v) (h : p.written? s v = none) : p.absent? s = some v := by
  cases p with
  | required => cases h
  | optional => rw [show v = none from h]; rfl
  | retired => rw [show v = none from hv]; rfl
  | defaulted value whenEmpty =>
    simp only [Presence.written?] at h
    split at h
    next hbare =>
      -- only an empty list is left out, and the list that stands for an absent one is empty
      rw [Bool.and_eq_true] at hbare
      cases s with
      | list item =>
        have hnil : v = [] := List.isEmpty_iff.1 hbare.2
        rw [hnil]
        rfl
      | _ => exact absurd hbare.2 Bool.false_ne_true
    · cases h

theorem Shape.toJson_ne_null (s : Shape) (c : s.Carrier) : s.toJson c ≠ .null := by
  cases s <;> simp [Shape.toJson]

theorem wordCount_le {width : Nat} (h : width ≤ 64) : wordCount width ≤ 0x10000000000000000 :=
  Nat.pow_le_pow_right (by decide) h

mutual

/-- What is written of a sound shape has numbers that fit a word. -/
theorem Shape.plain_toJson : ∀ (s : Shape) (c : s.Carrier), s.isSound = true → (s.toJson c).Plain
  | .text, _, _ => by simp [Shape.toJson]
  | .flag, _, _ => by simp [Shape.toJson]
  | .word width, c, hs => by
    have hle := wordCount_le (of_decide_eq_true hs)
    have hlt := c.isLt
    rw [Shape.toJson, Plain, FitsWord]
    omega
  | .choice _ _, _, _ => by simp [Shape.toJson]
  | .list item, c, hs => by
    rw [Shape.toJson, Plain]
    exact plainItems_iff.2 (List.forall_mem_map.2 fun a _ => Shape.plain_toJson item a hs)
  | .dict item, c, hs => by
    rw [Shape.toJson, Plain]
    exact plainMembers_iff.2 (List.forall_mem_map.2 fun e _ => Shape.plain_toJson item e.2 hs)
  | .record _ fields, c, hs => by
    rw [Shape.toJson, Plain]
    exact Layout.plain_toMembers fields c hs

theorem Layout.plain_toMembers :
    ∀ (fields : Layout) (c : fields.Carrier), fields.isSound = true →
      PlainMembers (fields.toMembers c)
  | .nil, _, _ => by simp
  | .cons key p s rest, (v, more), hs => by
    obtain ⟨-, hs, hrest⟩ := Layout.isSound_cons.1 hs
    rw [Layout.toMembers]
    split
    · exact Layout.plain_toMembers rest more hrest
    · exact ⟨Shape.plain_toJson s _ hs, Layout.plain_toMembers rest more hrest⟩

end

/-- The members of a record are that of its first field, if that is written, and the others. -/
theorem Layout.mem_toMembers_cons {key k : String} {p : Presence} {s : Shape} {rest : Layout}
    {v : p.Slot s.Carrier} {more : rest.Carrier} {u : Json} :
    (k, u) ∈ (Layout.cons key p s rest).toMembers (v, more) ↔
      (∃ w, p.written? s v = some w ∧ k = key ∧ u = s.toJson w) ∨ (k, u) ∈ rest.toMembers more := by
  rw [Layout.toMembers]
  constructor
  · intro h
    split at h
    · exact .inr h
    next w hwritten =>
      rcases List.mem_cons.1 h with heq | h
      · obtain ⟨hk, hu⟩ := Prod.mk.inj heq
        exact .inl ⟨w, hwritten, hk, hu⟩
      · exact .inr h
  · rintro (⟨w, hwritten, rfl, rfl⟩ | h)
    · rw [hwritten]
      exact List.mem_cons_self
    · split
      · exact h
      · exact List.mem_cons_of_mem _ h

theorem Layout.keys_toMembers : ∀ (fields : Layout) (c : fields.Carrier) {k : String} {v : Json},
    (k, v) ∈ fields.toMembers c → k ∈ fields.keys
  | .nil, _, k, v, h => by simp at h
  | .cons key p s rest, (w, more), k, v, h => by
    rw [Layout.keys, List.mem_cons]
    rcases Layout.mem_toMembers_cons.1 h with ⟨-, -, hk, -⟩ | h
    · exact .inl hk
    · exact .inr (Layout.keys_toMembers rest more h)

theorem Layout.nodup_keys_toMembers : ∀ (fields : Layout) (c : fields.Carrier),
    fields.isSound = true → ((fields.toMembers c).map Prod.fst).Nodup
  | .nil, _, _ => by simp
  | .cons key p s rest, (w, more), hs => by
    obtain ⟨hkey, -, hrest⟩ := Layout.isSound_cons.1 hs
    rw [Layout.toMembers]
    split
    · exact Layout.nodup_keys_toMembers rest more hrest
    · refine List.nodup_cons.2 ⟨fun h => ?_, Layout.nodup_keys_toMembers rest more hrest⟩
      obtain ⟨⟨k, v⟩, hm, rfl⟩ := List.mem_map.1 h
      exact hkey (Layout.keys_toMembers rest more hm)

mutual

/-- The number of levels of brackets in what is written of a shape. -/
def Shape.depth : Shape → Nat
  | .list item => item.depth + 1
  | .dict item => item.depth + 1
  | .record _ fields => fields.depth + 1
  | _ => 0

/-- The number of levels of brackets within the fields of a record. -/
def Layout.depth : Layout → Nat
  | .nil => 0
  | .cons _ _ s rest => max s.depth rest.depth

end

mutual

theorem Shape.depth_toJson_le : ∀ (s : Shape) (c : s.Carrier), (s.toJson c).depth ≤ s.depth
  | .text, _ => Nat.le_refl _
  | .flag, _ => Nat.le_refl _
  | .word _, _ => Nat.le_refl _
  | .choice _ _, _ => Nat.le_refl _
  | .list item, _ => by
    refine Nat.succ_le_succ (Json.itemsDepth_le_iff.2 (List.forall_mem_map.2 fun a _ => ?_))
    exact Shape.depth_toJson_le item a
  | .dict item, _ => by
    refine Nat.succ_le_succ (Json.membersDepth_le_iff.2 (List.forall_mem_map.2 fun e _ => ?_))
    exact Shape.depth_toJson_le item e.2
  | .record _ fields, c => Nat.succ_le_succ (Layout.depth_toMembers_le fields c)

theorem Layout.depth_toMembers_le : ∀ (fields : Layout) (c : fields.Carrier),
    Json.membersDepth (fields.toMembers c) ≤ fields.depth
  | .nil, _ => Nat.le_refl _
  | .cons _ p s rest, (v, more) => by
    have hmore := Layout.depth_toMembers_le rest more
    rw [Layout.toMembers, Layout.depth]
    split
    · exact Nat.le_trans hmore (Nat.le_max_right _ _)
    next w _ =>
      have hw := Shape.depth_toJson_le s w
      rw [Json.membersDepth]
      omega

end

/-! ### Sketches -/

/-- The draft of a record that has those written fields whose keys are `done`. -/
def Layout.sketch : (fields : Layout) → (done : List String) → fields.Carrier → fields.Draft
  | .nil, _, _ => ()
  | .cons key p s rest, done, (v, more) =>
    (if key ∈ done ∧ (p.written? s v).isSome then some v else none, rest.sketch done more)

theorem Layout.sketch_nil : ∀ (fields : Layout) (c : fields.Carrier),
    fields.sketch [] c = fields.blank
  | .nil, _ => rfl
  | .cons key p s rest, (v, more) => by
    rw [Layout.sketch, Layout.sketch_nil rest more, if_neg (by simp)]
    rfl

/-- A key that no field has makes no difference. -/
theorem Layout.sketch_of_not_mem {k : String} {done : List String} :
    ∀ (fields : Layout) (c : fields.Carrier), k ∉ fields.keys →
      fields.sketch (k :: done) c = fields.sketch done c
  | .nil, _, _ => rfl
  | .cons key p s rest, (v, more), h => by
    rw [Layout.keys, List.mem_cons, not_or] at h
    rw [Layout.sketch, Layout.sketch, Layout.sketch_of_not_mem rest more h.2]
    simp only [List.mem_cons, Ne.symm h.1, false_or]

section FirstField

variable {key : String} {p : Presence} {s : Shape} {rest : Layout} {v : p.Slot s.Carrier}
  {more : rest.Carrier} {done : List String}

/-- The first field is not there before its key was read, -/
theorem Layout.sketch_vacant (h : key ∉ done) :
    (Layout.cons key p s rest).sketch done (v, more) = (none, rest.sketch done more) := by
  rw [Layout.sketch, if_neg fun hmem => h hmem.1]

/-- then it is, if it is written, -/
theorem Layout.sketch_own {w : s.Carrier} (hkey : key ∉ rest.keys)
    (hwritten : p.written? s v = some w) :
    (Layout.cons key p s rest).sketch (key :: done) (v, more) =
      (some v, rest.sketch done more) := by
  have hsome : (p.written? s v).isSome := by
    rw [hwritten]
    rfl
  rw [Layout.sketch, if_pos ⟨List.mem_cons_self, hsome⟩, Layout.sketch_of_not_mem rest more hkey]

/-- and the key of another field leaves it as it is. -/
theorem Layout.sketch_other {k : String} (h : k ≠ key) :
    (Layout.cons key p s rest).sketch (k :: done) (v, more) =
      (((Layout.cons key p s rest).sketch done (v, more)).1, rest.sketch (k :: done) more) := by
  rw [Layout.sketch, Layout.sketch]
  simp only [List.mem_cons, Ne.symm h, false_or]

end FirstField

/-- Members that turn one draft into another, each by a step of its own. -/
inductive Fills {V D : Type} (step : String → V → D → D → Prop) :
    D → List (String × V) → D → Prop
  | nil (d : D) : Fills step d [] d
  | cons {k : String} {v : V} {r : List (String × V)} {d next e : D} (head : step k v d next)
      (tail : Fills step next r e) : Fills step d ((k, v) :: r) e

/-- Members with different keys, each of which adds its key to any sketch, add all their keys. -/
theorem Layout.fills_sketch {V : Type} {fields : Layout} {c : fields.Carrier}
    {step : String → V → fields.Draft → fields.Draft → Prop} {ms : List (String × V)}
    (done : List String)
    (hstep : ∀ m ∈ ms, ∀ done, m.1 ∉ done →
      step m.1 m.2 (fields.sketch done c) (fields.sketch (m.1 :: done) c))
    (hkeys : (ms.map Prod.fst).Nodup) (hdone : ∀ m ∈ ms, m.1 ∉ done) :
    Fills step (fields.sketch done c) ms
      (fields.sketch ((ms.map Prod.fst).reverse ++ done) c) := by
  induction ms generalizing done with
  | nil => exact .nil _
  | cons m r ih =>
    obtain ⟨hnot, hkeys⟩ := List.nodup_cons.1 hkeys
    -- the other members come to a sketch that has the first one already
    have htail := ih (m.1 :: done) (fun m' hm' => hstep m' (List.mem_cons_of_mem m hm')) hkeys
      fun m' hm' => by
        rw [List.mem_cons, not_or]
        exact ⟨fun heq => hnot (heq ▸ List.mem_map_of_mem hm'),
          hdone m' (List.mem_cons_of_mem m hm')⟩
    rw [List.map_cons, List.reverse_cons, List.append_assoc, List.singleton_append]
    exact .cons (hstep m List.mem_cons_self done (hdone m List.mem_cons_self)) htail

/-- The sketch with all members of a settled record gives the record. -/
theorem Layout.finish_sketch {done : List String} :
    ∀ (fields : Layout) (c : fields.Carrier), fields.Settled c →
      (∀ m ∈ fields.toMembers c, m.1 ∈ done) → fields.finish (fields.sketch done c) = .ok c
  | .nil, _, _, _ => rfl
  | .cons key p s rest, (v, more), hc, hdone => by
    have hrest := Layout.finish_sketch rest more hc.2 fun m hm =>
      hdone m (Layout.mem_toMembers_cons.2 (.inr hm))
    rw [Layout.sketch, Layout.finish]
    cases hwritten : p.written? s v with
    | none =>
      -- the field is not in the sketch, and its absence stands for the value that it has
      rw [if_neg fun h => Bool.false_ne_true h.2, Option.orElse_eq_orElse, Option.orElse_none,
        Presence.absent_of_unwritten hc.1 hwritten]
      simp only [hrest]
      rfl
    | some w =>
      have hkey : key ∈ done :=
        hdone (key, s.toJson w) (Layout.mem_toMembers_cons.2 (.inl ⟨w, hwritten, rfl, rfl⟩))
      rw [if_pos ⟨hkey, rfl⟩, Option.orElse_eq_orElse, Option.orElse_some]
      simp only [hrest]
      rfl

/-- Members of all written fields of a settled record, each of which adds its own field, turn the
draft without fields into one of the record. -/
theorem Layout.fills_record {V : Type} {fields : Layout} {c : fields.Carrier}
    (step : String → V → fields.Draft → fields.Draft → Prop) {ms : List (String × V)}
    (hc : fields.Settled c)
    (hstep : ∀ m ∈ ms, ∀ done, m.1 ∉ done →
      step m.1 m.2 (fields.sketch done c) (fields.sketch (m.1 :: done) c))
    (hkeys : (ms.map Prod.fst).Nodup)
    (hall : ∀ m ∈ fields.toMembers c, m.1 ∈ ms.map Prod.fst) :
    ∃ draft, Fills step fields.blank ms draft ∧ fields.finish draft = .ok c := by
  have hfills := Layout.fills_sketch [] hstep hkeys fun _ _ => List.not_mem_nil
  rw [Layout.sketch_nil] at hfills
  refine ⟨_, hfills, Layout.finish_sketch fields c hc fun m hm => ?_⟩
  rw [List.append_nil, List.mem_reverse]
  exact hall m hm

end RealmRegistry.Schema
