/-
A record that is read from a table, in two passes.

The members of a table are read one after the other into a draft, which is finished then.  If no key
is repeated, the draft has no say in whether a member can be read.  So the same comes of looking
through the members for the first complaint, and then putting together the fields.

* `Layout.check` — the complaint about a member;
* `Layout.fill` — the record of the members that are found for its keys;
* `Shape.ofDocument_table` — a record is checked and then filled.
-/
import RealmRegistry.Proofs.Schema.Fields

namespace RealmRegistry.Schema

variable {V : Type} [Document V]

/-- The complaint about a member, if there is a field with its key and a value cannot be read. -/
def Layout.check : Layout → String → V → Except Mismatch Unit
  | .nil, _, _ => .ok ()
  | .cons key p s rest, k, v =>
    if k = key then (p.ofDocument s.ofDocument v).map fun _ => () else rest.check k v

/-- The record of the members that are found, each field of which is read when it is its turn. -/
def Layout.fill (found : String → Option V) : (fields : Layout) → Except Mismatch fields.Carrier
  | .nil => .ok ()
  | .cons key p s rest =>
    match found key with
    | none =>
      match p.absent? s with
      | none => .error (.missing key)
      | some a => (rest.fill found).map fun more => (a, more)
    | some v =>
      match p.ofDocument s.ofDocument v with
      | .error e => .error e
      | .ok a => (rest.fill found).map fun more => (a, more)

/-- Checks all members in their order. -/
def Layout.checkAll (fields : Layout) : List (String × V) → Except Mismatch Unit
  | [] => .ok ()
  | (k, v) :: r =>
    match fields.check k v with
    | .error e => .error e
    | .ok () => fields.checkAll r

section Passes

variable {fields : Layout} {done ms : List (String × V)}

/-- A member whose key was not there before is put into a draft unless there is a complaint about
it. -/
theorem Layout.put_eq_check {k : String} (u : V) (hk : done.lookup k = none) :
    ∀ (fields : Layout) {draft : fields.Draft}, fields.Drawn done draft →
      (fields.put k u draft).map (fun _ => ()) = fields.check k u
  | .nil, _, _ => rfl
  | .cons key p s rest, (slot, more), ⟨hslot, hmore⟩ => by
    rw [Layout.put, Layout.check]
    split
    next heq =>
      have hvacant : slot = none := by rwa [← heq, hk] at hslot
      rw [hvacant, if_neg (by exact Bool.false_ne_true)]
      cases p.ofDocument s.ofDocument u <;> rfl
    · have hrest := rest.put_eq_check u hk hmore
      cases hput : rest.put k u more <;> rw [hput] at hrest <;> exact hrest

/-- Members whose keys were not there before, and are not repeated, are read into a draft unless
there is a complaint about one of them. -/
theorem Layout.readMembers_eq_checkAll (hsound : fields.isSound = true) {draft : fields.Draft}
    (hdraft : fields.Drawn done draft) (hnew : ∀ m ∈ ms, done.lookup m.1 = none)
    (honce : (ms.map Prod.fst).Nodup) :
    (readMembers fields.put draft ms).map (fun _ => ()) = fields.checkAll ms := by
  induction ms generalizing done draft with
  | nil => rfl
  | cons m r ih =>
    obtain ⟨k, u⟩ := m
    obtain ⟨hk, hr⟩ := List.forall_mem_cons.1 hnew
    obtain ⟨hother, honce⟩ := List.nodup_cons.1 honce
    have hcheck := fields.put_eq_check u hk hdraft
    rw [checkAll, ← hcheck, readMembers]
    cases hput : fields.put k u draft with
    | error e => rfl
    | ok next =>
      refine ih (fields.drawn_put hsound hdraft hput) (fun m hm => ?_) honce
      have hne : m.1 ≠ k := by
        rintro rfl
        exact hother (List.mem_map.2 ⟨m, hm, rfl⟩)
      rw [lookup_other hne]
      exact hr m hm

/-- A draft is finished by filling the record with the members it was drawn from. -/
theorem Layout.finish_of_drawn : ∀ (fields : Layout) {draft : fields.Draft},
    fields.Drawn done draft → fields.finish draft = fields.fill (done.lookup ·)
  | .nil, _, _ => rfl
  | .cons key p s rest, (slot, more), ⟨hslot, hmore⟩ => by
    have hrest := rest.finish_of_drawn hmore
    rw [Layout.finish, Layout.fill, hrest]
    cases hfound : done.lookup key with
    | none =>
      rw [hfound] at hslot
      rw [show slot = none from hslot]
      rfl
    | some u =>
      rw [hfound] at hslot
      obtain ⟨a, rfl, hread⟩ := hslot
      simp only [hread]
      rfl

/-- A record is read from a table without repeated keys by checking all members and then filling in
the fields. -/
theorem Shape.ofDocument_table {title : String} (hsound : fields.isSound = true) {v : V}
    (hview : Document.view v = .table ms) (honce : (ms.map Prod.fst).Nodup) :
    (Shape.record title fields).ofDocument v =
      match fields.checkAll ms with
      | .error e => .error e
      | .ok () => fields.fill (ms.lookup ·) := by
  have hchecks := Layout.readMembers_eq_checkAll hsound fields.drawn_blank
    (fun m _ => (rfl : ([] : List (String × V)).lookup m.1 = none)) honce
  rw [Shape.ofDocument, hview, ← hchecks]
  dsimp only
  cases hread : readMembers fields.put fields.blank ms with
  | error e => rfl
  | ok draft =>
    have hdrawn := Layout.drawn_readMembers hsound fields.drawn_blank hread
    rw [List.append_nil] at hdrawn
    simp only [fields.finish_of_drawn hdrawn, Dict.lookup_reverse honce]
    rfl

end Passes

end RealmRegistry.Schema
