/-
The fields of a record, each by its own member.

A record is read member after member into a draft.  What becomes of a field depends on nothing but
the last member with its key: each member that is read adds its field to the draft and leaves the
others (`Layout.drawn_put`), so a draft has the fields of the members that were read so far.

* `Layout.Holds` — each field has the value of its member, or that of an absent one;
* `Shape.holds_of_ofDocument` — a record that is read from a table;
* `Layout.mem_currentKeys` — the members that are written of a record have keys of its other fields
  than the retired ones.
-/
import RealmRegistry.Proofs.Schema.Document

namespace RealmRegistry.Schema

variable {V : Type}

/-! ### Drafts -/

theorem lookup_other {k key : String} (h : key ≠ k) (u : V) (done : List (String × V)) :
    ((k, u) :: done).lookup key = done.lookup key := by
  rw [List.lookup_cons, beq_eq_false_iff_ne.2 h]

variable [Document V]

/-- A field of a draft is there if there was a member for it, and has the value of that. -/
def Presence.Drawn (p : Presence) (s : Shape) : Option V → Option (p.Slot s.Carrier) → Prop
  | none, slot => slot = none
  | some u, slot => ∃ v, slot = some v ∧ p.ofDocument s.ofDocument u = .ok v

/-- A draft has the fields of the members that were read, the latest of which comes first. -/
def Layout.Drawn (done : List (String × V)) : (fields : Layout) → fields.Draft → Prop
  | .nil, _ => True
  | .cons key p s rest, (slot, more) => p.Drawn s (done.lookup key) slot ∧ rest.Drawn done more

/-- A field has the value of its member, or that of an absent one. -/
def Presence.Has (p : Presence) (s : Shape) : Option V → p.Slot s.Carrier → Prop
  | none, v => p.absent? s = some v
  | some u, v => p.ofDocument s.ofDocument u = .ok v

/-- Each field of a record has the value of the member that is found for its key. -/
def Layout.Holds (found : String → Option V) : (fields : Layout) → fields.Carrier → Prop
  | .nil, _ => True
  | .cons key p s rest, (v, more) => p.Has s (found key) v ∧ rest.Holds found more

theorem Layout.drawn_blank : ∀ fields : Layout, fields.Drawn ([] : List (String × V)) fields.blank
  | .nil => trivial
  | .cons _ _ _ rest => ⟨rfl, rest.drawn_blank⟩

/-- A member with the key of no field makes no difference. -/
theorem Layout.drawn_cons_of_not_mem {done : List (String × V)} {k : String} (u : V) :
    ∀ (fields : Layout) {draft : fields.Draft}, k ∉ fields.keys → fields.Drawn done draft →
      fields.Drawn ((k, u) :: done) draft
  | .nil, _, _, _ => trivial
  | .cons key p s rest, (slot, more), hk, ⟨hslot, hmore⟩ => by
    rw [Layout.keys, List.mem_cons, not_or] at hk
    refine ⟨?_, rest.drawn_cons_of_not_mem u hk.2 hmore⟩
    rwa [lookup_other (Ne.symm hk.1)]

/-- A member that is read adds its field to the draft, and nothing else. -/
theorem Layout.drawn_put {done : List (String × V)} {k : String} {u : V} :
    ∀ (fields : Layout) {draft next : fields.Draft}, fields.isSound = true →
      fields.Drawn done draft → fields.put k u draft = .ok next →
      fields.Drawn ((k, u) :: done) next
  | .nil, _, _, _, _, _ => trivial
  | .cons key p s rest, (slot, more), next, hsound, ⟨hslot, hmore⟩, h => by
    obtain ⟨hkey, -, hrest⟩ := Layout.isSound_cons.1 hsound
    rw [Layout.put] at h
    split at h
    next hk =>
      -- the field was not there yet
      split at h
      · cases h
      · obtain ⟨v, hread, rfl⟩ := map_eq_ok.1 h
        subst hk
        refine ⟨?_, rest.drawn_cons_of_not_mem u hkey hmore⟩
        rw [List.lookup_cons_self]
        exact ⟨v, rfl, hread⟩
    next hk =>
      obtain ⟨after, hput, rfl⟩ := map_eq_ok.1 h
      refine ⟨?_, rest.drawn_put hrest hmore hput⟩
      rwa [lookup_other (Ne.symm hk)]

/-- When all members were read, the draft has the fields of all of them. -/
theorem Layout.drawn_readMembers {fields : Layout} (hsound : fields.isSound = true)
    {done ms : List (String × V)} {draft next : fields.Draft} (hdraft : fields.Drawn done draft)
    (h : readMembers fields.put draft ms = .ok next) : fields.Drawn (ms.reverse ++ done) next := by
  induction ms generalizing done draft with
  | nil =>
    cases h
    exact hdraft
  | cons m r ih =>
    obtain ⟨k, u⟩ := m
    rw [readMembers] at h
    split at h
    · cases h
    next after hput =>
      rw [List.reverse_cons, List.append_assoc]
      exact ih (fields.drawn_put hsound hdraft hput) h

/-! ### Records -/

/-- Where a draft has no field, the value of an absent one is put. -/
theorem Presence.has_of_drawn {p : Presence} {s : Shape} {found : Option V}
    {slot : Option (p.Slot s.Carrier)} {v : p.Slot s.Carrier} (hslot : p.Drawn s found slot)
    (h : (slot <|> p.absent? s) = some v) : p.Has s found v := by
  cases found with
  | none =>
    rw [show slot = none from hslot] at h
    exact h
  | some u =>
    obtain ⟨w, rfl, hread⟩ := hslot
    cases h
    exact hread

theorem Layout.holds_of_finish {done : List (String × V)} :
    ∀ (fields : Layout) {draft : fields.Draft} {c : fields.Carrier}, fields.Drawn done draft →
      fields.finish draft = .ok c → fields.Holds (done.lookup ·) c
  | .nil, _, _, _, _ => trivial
  | .cons key p s rest, (slot, more), c, ⟨hslot, hmore⟩, h => by
    rw [Layout.finish] at h
    split at h
    · cases h
    next v hv =>
      obtain ⟨vs, hfinish, rfl⟩ := map_eq_ok.1 h
      exact ⟨Presence.has_of_drawn hslot hv, rest.holds_of_finish hmore hfinish⟩

/-- Each field of a record that is read from a table is that of the last member with its key. -/
theorem Shape.holds_of_ofDocument {title : String} {fields : Layout}
    (hsound : fields.isSound = true) {v : V} {ms : List (String × V)}
    (hview : Document.view v = .table ms) {c : fields.Carrier}
    (h : (Shape.record title fields).ofDocument v = .ok c) :
    fields.Holds (ms.reverse.lookup ·) c := by
  rw [Shape.ofDocument, hview] at h
  dsimp only at h
  split at h
  · cases h
  next draft hread =>
    have hdrawn := Layout.drawn_readMembers hsound fields.drawn_blank hread
    rw [List.append_nil] at hdrawn
    exact fields.holds_of_finish hdrawn h

/-! ### Members that are written -/

/-- The keys of the fields that are not retired. -/
def Layout.currentKeys : Layout → List String
  | .nil => []
  | .cons key p _ rest => if p = .retired then rest.currentKeys else key :: rest.currentKeys

/-- Nothing is written of a retired field. -/
theorem Layout.mem_currentKeys : ∀ (fields : Layout) (c : fields.Carrier) {k : String} {v : Json},
    (k, v) ∈ fields.toMembers c → k ∈ fields.currentKeys
  | .nil, _, _, _, h => by simp at h
  | .cons key p s rest, (w, more), k, v, h => by
    rw [Layout.currentKeys]
    rcases Layout.mem_toMembers_cons.1 h with ⟨w', hwritten, rfl, -⟩ | h
    · have hp : p ≠ .retired := by
        rintro rfl
        cases hwritten
      rw [if_neg hp]
      exact List.mem_cons_self
    · have hrest := rest.mem_currentKeys more h
      split
      · exact hrest
      · exact List.mem_cons_of_mem _ hrest

end RealmRegistry.Schema
