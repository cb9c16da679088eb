/-
A record by the values of its keys.

A table may have a key more than once, and a key that no field has.  What is read of it depends on
the values that it has at the key of each field, and not on how the members of different keys stand
to each other: a field with one value is read from that, a field without a value is absent, and a
field with two of them is refused.

* `Shape.ofDocument_list_iff`, `Shape.ofDocument_record_iff` — one level of a document;
* `Layout.Receives` — what is read for the fields of a record;
* `Layout.completes_put` — one member;
* `Shape.ofDocument_iff_receives` — all members of a table.
-/
import RealmRegistry.Proofs.Schema.Document

namespace RealmRegistry.Schema

variable {V : Type}

/-! ### Elements and entries -/

@[simp] theorem readAll_nil_iff {α : Type} {item : V → Except Mismatch α} {vs : List V} :
    readAll item vs = .ok [] ↔ vs = [] := by
  cases vs with
  | nil => exact ⟨fun _ => rfl, fun _ => rfl⟩
  | cons v vs =>
    rw [readAll]
    cases item v <;> simp

theorem readAll_cons_iff {α : Type} {item : V → Except Mismatch α} {vs : List V} {a : α}
    {as : List α} :
    readAll item vs = .ok (a :: as) ↔
      ∃ v vs', vs = v :: vs' ∧ item v = .ok a ∧ readAll item vs' = .ok as := by
  cases vs with
  | nil => exact ⟨nofun, fun ⟨_, _, h, _⟩ => nomatch h⟩
  | cons v vs =>
    rw [readAll]
    cases hread : item v <;> simp [hread, and_comm]

/-- A dictionary is read as members are read into a draft. -/
theorem readEntries_eq_readMembers {α : Type} (item : V → Except Mismatch α) (d : Dict α)
    (ms : List (String × V)) :
    readEntries item d ms = readMembers (fun k v d => (item v).map (d.insert k)) d ms := by
  induction ms generalizing d with
  | nil => rfl
  | cons m r ih =>
    rw [readEntries, readMembers]
    cases item m.2 with
    | error e => rfl
    | ok a => exact ih _

/-! ### Levels -/

section Levels

variable [Document V] {v : V}

theorem Shape.ofDocument_text_iff {t : String} :
    Shape.text.ofDocument v = .ok t ↔ Document.view v = .text t := by
  rw [Shape.ofDocument]
  cases Document.view v <;> simp [wrongKind]

theorem Shape.ofDocument_flag_iff {b : Bool} :
    Shape.flag.ofDocument v = .ok b ↔ Document.view v = .flag b := by
  rw [Shape.ofDocument]
  cases Document.view v <;> simp [wrongKind]

theorem Shape.ofDocument_word_iff {width : Nat} {n : Fin (wordCount width)} :
    (Shape.word width).ofDocument v = .ok n ↔
      ∃ i, Document.view v = .integer i ∧ readWord width i = .ok n := by
  rw [Shape.ofDocument]
  cases Document.view v <;> simp [wrongKind]

theorem Shape.ofDocument_choice_iff {first : String} {others : List String}
    {i : Fin (others.length + 1)} :
    (Shape.choice first others).ofDocument v = .ok i ↔
      ∃ name, Document.choice v = .ok (name, .ok ()) ∧ readChoice first others name = .ok i := by
  rw [Shape.ofDocument]
  constructor
  · intro h
    split at h
    · cases h
    next name bare hchoice =>
      split at h
      · cases h
      next j hname =>
        obtain ⟨⟨⟩, rfl, rfl⟩ := map_eq_ok.1 h
        exact ⟨name, hchoice, hname⟩
  · rintro ⟨name, hchoice, hname⟩
    simp only [hchoice, hname]
    rfl

theorem Shape.ofDocument_list_iff {item : Shape} {as : List item.Carrier} :
    (Shape.list item).ofDocument v = .ok as ↔
      ∃ vs, Document.view v = .list vs ∧ readAll item.ofDocument vs = .ok as := by
  rw [Shape.ofDocument]
  cases Document.view v <;> simp [wrongKind]

theorem Shape.ofDocument_dict_iff {item : Shape} {d : Dict item.Carrier} :
    (Shape.dict item).ofDocument v = .ok d ↔
      ∃ ms, Document.view v = .table ms ∧ readEntries item.ofDocument Dict.empty ms = .ok d := by
  rw [Shape.ofDocument]
  cases Document.view v <;> simp [wrongKind]

theorem Shape.ofDocument_record_iff {title : String} {fields : Layout} {c : fields.Carrier} :
    (Shape.record title fields).ofDocument v = .ok c ↔
      (∃ ms draft, Document.view v = .table ms ∧
        readMembers fields.put fields.blank ms = .ok draft ∧ fields.finish draft = .ok c) ∨
      ∃ vs, Document.view v = .list vs ∧
        fields.ofItems (expectedLength title fields) 0 vs = .ok c ∧
        Document.surplus V fields.length vs.length = .ok () := by
  rw [Shape.ofDocument]
  constructor
  · intro h
    split at h
    next ms hview =>
      split at h
      · cases h
      next draft hread => exact .inl ⟨ms, draft, hview, hread, h⟩
    next vs hview =>
      split at h
      · cases h
      next a hitems =>
        obtain ⟨⟨⟩, hsurplus, rfl⟩ := map_eq_ok.1 h
        exact .inr ⟨vs, hview, hitems, hsurplus⟩
    next => cases h
  · rintro (⟨ms, draft, hview, hread, hfinish⟩ | ⟨vs, hview, hitems, hsurplus⟩)
    · simp only [hview, hread, hfinish]
    · simp only [hview, hitems, hsurplus]
      rfl

/-- Only null is read as an unset field without being looked at. -/
theorem Presence.optional_of_view {α : Type} {item : V → Except Mismatch α}
    (hv : Document.view v ≠ .null) : Presence.ofDocument.optional item v = (item v).map some := by
  rw [Presence.ofDocument.optional]
  split
  next hnull => exact absurd hnull hv
  next => rfl

section Elements

variable {key : String} {p : Presence} {s : Shape} {rest : Layout} {expected : String}
  {index : Nat} {a : p.Slot s.Carrier} {more : rest.Carrier}

/-- Where the elements end the value of an unreached field is taken, -/
theorem Layout.ofItems_nil_iff :
    (Layout.cons key p s rest).ofItems expected index ([] : List V) = .ok (a, more) ↔
      p.unreached? s = some a ∧ rest.ofItems expected (index + 1) ([] : List V) = .ok more := by
  rw [Layout.ofItems]
  cases p.unreached? s <;> simp [and_comm]

/-- and before that the element of the field is read. -/
theorem Layout.ofItems_cons_iff {vs : List V} :
    (Layout.cons key p s rest).ofItems expected index (v :: vs) = .ok (a, more) ↔
      p.ofDocument s.ofDocument v = .ok a ∧ rest.ofItems expected (index + 1) vs = .ok more := by
  rw [Layout.ofItems]
  cases p.ofDocument s.ofDocument v <;> simp [and_comm]

end Elements

end Levels

/-! ### The values at a key -/

/-- All values that a table has at a key, in their order. -/
def valuesAt (key : String) (ms : List (String × V)) : List V :=
  (ms.filter fun m => m.1 == key).map Prod.snd

section Values

variable {k key : String}

@[simp] theorem valuesAt_cons_self (u : V) (ms : List (String × V)) :
    valuesAt k ((k, u) :: ms) = u :: valuesAt k ms := by
  simp [valuesAt]

theorem valuesAt_cons_of_ne (h : k ≠ key) (u : V) (ms : List (String × V)) :
    valuesAt key ((k, u) :: ms) = valuesAt key ms := by
  simp [valuesAt, h]

end Values

variable [Document V]

/-! ### Fields -/

/-- What is read for a field from the values at its key. -/
def Presence.Receives (p : Presence) (s : Shape) : List V → p.Slot s.Carrier → Prop
  | [], a => p.absent? s = some a
  | [u], a => p.ofDocument s.ofDocument u = .ok a
  | _ :: _ :: _, _ => False

/-- What is read for all fields of a record from the members of a table. -/
def Layout.Receives (ms : List (String × V)) : (fields : Layout) → fields.Carrier → Prop
  | .nil, _ => True
  | .cons key p s rest, (a, more) => p.Receives s (valuesAt key ms) a ∧ rest.Receives ms more

theorem Presence.receives_cons {p : Presence} {s : Shape} {u : V} {us : List V}
    {a : p.Slot s.Carrier} :
    p.Receives s (u :: us) a ↔ us = [] ∧ p.ofDocument s.ofDocument u = .ok a := by
  cases us with
  | nil => exact (and_iff_right rfl).symm
  | cons u' us => exact ⟨False.elim, fun h => nomatch h.1⟩

/-- What becomes of a field of a draft with further values at its key. -/
def Presence.Completes (p : Presence) (s : Shape) :
    Option (p.Slot s.Carrier) → List V → p.Slot s.Carrier → Prop
  | none, us, a => p.Receives s us a
  | some b, us, a => us = [] ∧ b = a

/-- What becomes of a draft with further members. -/
def Layout.Completes (ms : List (String × V)) :
    (fields : Layout) → fields.Draft → fields.Carrier → Prop
  | .nil, _, _ => True
  | .cons key p s rest, (slot, more), (a, tail) =>
    p.Completes s slot (valuesAt key ms) a ∧ rest.Completes ms more tail

/-! ### Members -/

section Members

variable {ms : List (String × V)} {k : String} {u : V}

/-- A member with the key of no field makes no difference. -/
theorem Layout.completes_cons_of_not_mem : ∀ {fields : Layout} {draft : fields.Draft}
    {c : fields.Carrier}, k ∉ fields.keys →
      (fields.Completes ((k, u) :: ms) draft c ↔ fields.Completes ms draft c)
  | .nil, _, _, _ => Iff.rfl
  | .cons key p s rest, (slot, more), (a, tail), hk => by
    rw [Layout.keys, List.mem_cons, not_or] at hk
    rw [Layout.Completes, Layout.Completes, valuesAt_cons_of_ne hk.1,
      completes_cons_of_not_mem hk.2]

/-- A member is put into the draft and the others complete that. -/
theorem Layout.completes_put : ∀ {fields : Layout} {draft : fields.Draft} {c : fields.Carrier},
    fields.isSound = true →
      ((∃ next, fields.put k u draft = .ok next ∧ fields.Completes ms next c) ↔
        fields.Completes ((k, u) :: ms) draft c)
  | .nil, _, _, _ => ⟨fun _ => trivial, fun _ => ⟨(), rfl, trivial⟩⟩
  | .cons key p s rest, (slot, more), (a, tail), hsound => by
    obtain ⟨hkey, -, hrest⟩ := Layout.isSound_cons.1 hsound
    rw [Layout.put, Layout.Completes]
    by_cases hk : k = key
    · -- the member is that of the first field, and no other field has its key
      subst hk
      rw [if_pos rfl, valuesAt_cons_self, completes_cons_of_not_mem hkey]
      cases slot with
      | some b =>
        rw [if_pos (by rfl)]
        exact ⟨nofun, fun h => nomatch h.1.1⟩
      | none =>
        rw [if_neg (by exact Bool.false_ne_true), Presence.Completes, Presence.receives_cons]
        constructor
        · rintro ⟨next, hput, hnext⟩
          obtain ⟨b, hread, rfl⟩ := map_eq_ok.1 hput
          obtain ⟨⟨hnone, rfl⟩, hmore⟩ := hnext
          exact ⟨⟨hnone, hread⟩, hmore⟩
        · rintro ⟨⟨hnone, hread⟩, hmore⟩
          exact ⟨(some a, more), map_eq_ok.2 ⟨a, hread, rfl⟩, ⟨hnone, rfl⟩, hmore⟩
    · rw [if_neg hk, valuesAt_cons_of_ne hk, ← completes_put hrest]
      constructor
      · rintro ⟨next, hput, hnext⟩
        obtain ⟨after, hafter, rfl⟩ := map_eq_ok.1 hput
        exact ⟨hnext.1, after, hafter, hnext.2⟩
      · rintro ⟨hslot, after, hput, hmore⟩
        exact ⟨(slot, after), map_eq_ok.2 ⟨after, hput, rfl⟩, hslot, hmore⟩

/-- A draft is finished when there are no more members. -/
theorem Layout.completes_nil : ∀ {fields : Layout} {draft : fields.Draft} {c : fields.Carrier},
    fields.finish draft = .ok c ↔ fields.Completes ([] : List (String × V)) draft c
  | .nil, _, _ => ⟨fun _ => trivial, fun _ => rfl⟩
  | .cons key p s rest, (slot, more), (a, tail) => by
    have hslot : (slot <|> p.absent? s) = some a ↔ p.Completes s slot ([] : List V) a := by
      cases slot with
      | none => exact Iff.rfl
      | some b => exact Option.some_inj.trans (and_iff_right rfl).symm
    rw [Layout.finish, Layout.Completes, ← @completes_nil rest]
    show _ ↔ p.Completes s slot [] a ∧ _
    rw [← hslot]
    constructor
    · intro h
      split at h
      · cases h
      next b hb =>
        obtain ⟨tail', hfinish, heq⟩ := map_eq_ok.1 h
        cases heq
        exact ⟨hb, hfinish⟩
    · rintro ⟨hb, hfinish⟩
      simp only [hb, hfinish]
      rfl

/-- The members of a table complete a draft one after the other. -/
theorem Layout.completes_readMembers {fields : Layout} (hsound : fields.isSound = true)
    {draft : fields.Draft} {c : fields.Carrier} :
    (∃ next, readMembers fields.put draft ms = .ok next ∧ fields.finish next = .ok c) ↔
      fields.Completes ms draft c := by
  induction ms generalizing draft with
  | nil =>
    rw [← Layout.completes_nil, readMembers]
    constructor
    · rintro ⟨next, heq, hfinish⟩
      cases heq
      exact hfinish
    · intro hfinish
      exact ⟨draft, rfl, hfinish⟩
  | cons m r ih =>
    obtain ⟨k, u⟩ := m
    rw [← Layout.completes_put hsound]
    simp only [← ih]
    rw [readMembers]
    constructor
    · rintro ⟨next, hread, hfinish⟩
      split at hread
      · cases hread
      next after hput => exact ⟨after, hput, next, hread, hfinish⟩
    · rintro ⟨after, hput, next, hread, hfinish⟩
      rw [hput]
      exact ⟨next, hread, hfinish⟩

theorem Layout.completes_blank : ∀ {fields : Layout} {c : fields.Carrier},
    fields.Completes ms fields.blank c ↔ fields.Receives ms c
  | .nil, _ => Iff.rfl
  | .cons _ _ _ _, (_, _) => and_congr_right fun _ => completes_blank

/-- A record is read from a table if each of its fields is read from the values at its key. -/
theorem Shape.ofDocument_iff_receives {title : String} {fields : Layout}
    (hsound : fields.isSound = true) {v : V} (hview : Document.view v = .table ms)
    {c : fields.Carrier} :
    (Shape.record title fields).ofDocument v = .ok c ↔ fields.Receives ms c := by
  rw [Shape.ofDocument_record_iff, ← Layout.completes_blank, ← Layout.completes_readMembers hsound,
    hview]
  constructor
  · rintro (⟨_, draft, ⟨⟩, hread, hfinish⟩ | ⟨_, hlist, -⟩)
    · exact ⟨draft, hread, hfinish⟩
    · cases hlist
  · rintro ⟨draft, hread, hfinish⟩
    exact .inl ⟨ms, draft, rfl, hread, hfinish⟩

end Members

end RealmRegistry.Schema
