/-
Which values can be written as TOML.

Words of 64 bits need not be whole numbers of TOML, and that is all that can go wrong with writing.
No document has a larger number either, so what was read from one can be written.

* `Shape.toToml_ok_iff` — a value can be written exactly if its words fit;
* `toToml_of_fromToml` — what was read from a text can be written.
-/
import RealmRegistry.Proofs.Schema.Document
import RealmRegistry.Proofs.Toml.Bounded
import RealmRegistry.Schema.Toml

namespace RealmRegistry.Schema

open RealmRegistry.Toml

/-! ### Writing lists -/

theorem writeAll_ok_iff {α β ε : Type} {f : α → Except ε β} {l : List α} {ts : List β} :
    writeAll f l = .ok ts ↔ List.Forall₂ (fun a t => f a = .ok t) l ts := by
  induction l generalizing ts with
  | nil =>
    rw [List.forall₂_nil_left_iff, writeAll]
    exact ⟨fun h => (Except.ok.inj h).symm, fun h => by rw [h]⟩
  | cons a r ih =>
    rw [List.forall₂_cons_left_iff, writeAll]
    constructor
    · intro h
      cases ha : f a with
      | error e => simp [ha] at h
      | ok t =>
        cases hr : writeAll f r with
        | error e => simp [ha, hr] at h
        | ok ts' =>
          simp only [ha, hr, Except.map] at h
          exact ⟨t, ts', rfl, ih.1 hr, (Except.ok.inj h).symm⟩
    · rintro ⟨t, ts', ha, hr, rfl⟩
      simp only [ha, ih.2 hr]
      rfl

theorem exists_writeAll_iff {α β ε : Type} {f : α → Except ε β} {l : List α} :
    (∃ ts, writeAll f l = .ok ts) ↔ ∀ a ∈ l, ∃ t, f a = .ok t := by
  simp only [writeAll_ok_iff]
  induction l with
  | nil => exact ⟨fun _ _ ha => absurd ha List.not_mem_nil, fun _ => ⟨[], .nil⟩⟩
  | cons a r ih =>
    rw [List.forall_mem_cons, ← ih]
    constructor
    · rintro ⟨ts, h⟩
      obtain ⟨t, ts', ha, hr, -⟩ := List.forall₂_cons_left_iff.1 h
      exact ⟨⟨t, ha⟩, ts', hr⟩
    · rintro ⟨⟨t, ha⟩, ts, hr⟩
      exact ⟨t :: ts, .cons ha hr⟩

/-! ### Values that can be written -/

mutual

/-- Whether all words of a value are whole numbers of TOML. -/
def Shape.fits : (s : Shape) → s.Carrier → Bool
  | .text, _ => true
  | .flag, _ => true
  | .word _, v => decide (v.val < 0x8000000000000000)
  | .choice _ _, _ => true
  | .list item, v => v.all item.fits
  | .dict item, v => v.entries.all fun e => item.fits e.2
  | .record _ fields, v => fields.fits v

/-- The same for the fields of a record that are written. -/
def Layout.fits : (fields : Layout) → fields.Carrier → Bool
  | .nil, _ => true
  | .cons _ p s rest, (v, more) => (p.written? s v).all s.fits && rest.fits more

end

mutual

/-- Whether all words of a shape have at most 63 bits. -/
def Shape.isNarrow : Shape → Bool
  | .word width => decide (width ≤ 63)
  | .list item => item.isNarrow
  | .dict item => item.isNarrow
  | .record _ fields => fields.isNarrow
  | _ => true

/-- The same for each field of a record. -/
def Layout.isNarrow : Layout → Bool
  | .nil => true
  | .cons _ _ s rest => s.isNarrow && rest.isNarrow

end

mutual

/-- Words of at most 63 bits always fit. -/
theorem Shape.fits_of_isNarrow : ∀ (s : Shape) (c : s.Carrier), s.isNarrow = true →
    s.fits c = true
  | .text, _, _ => rfl
  | .flag, _, _ => rfl
  | .word width, c, h => by
    have hle : wordCount width ≤ 2 ^ 63 :=
      Nat.pow_le_pow_right (by decide) (of_decide_eq_true h)
    exact decide_eq_true (Nat.lt_of_lt_of_le c.isLt hle)
  | .choice _ _, _, _ => rfl
  | .list item, _, h => List.all_eq_true.2 fun a _ => Shape.fits_of_isNarrow item a h
  | .dict item, _, h => List.all_eq_true.2 fun e _ => Shape.fits_of_isNarrow item e.2 h
  | .record _ fields, c, h => Layout.fits_of_isNarrow fields c h

theorem Layout.fits_of_isNarrow : ∀ (fields : Layout) (c : fields.Carrier),
    fields.isNarrow = true → fields.fits c = true
  | .nil, _, _ => rfl
  | .cons _ p s rest, (v, more), h => by
    obtain ⟨hs, hrest⟩ := Bool.and_eq_true_iff.1 h
    rw [Layout.fits, Bool.and_eq_true, Option.all_eq_true]
    exact ⟨fun w _ => Shape.fits_of_isNarrow s w hs, Layout.fits_of_isNarrow rest more hrest⟩

end

@[simp] theorem wordToToml_ok_iff {width n : Nat} {t : Toml} :
    wordToToml width n = .ok t ↔ n < 0x8000000000000000 ∧ t = .integer n := by
  rw [wordToToml]
  split
  next h => exact ⟨fun heq => ⟨h, (Except.ok.inj heq).symm⟩, fun heq => by rw [heq.2]⟩
  next h => exact ⟨fun heq => (by cases heq), fun heq => absurd heq.1 h⟩

/-- The members of a record are that of its first field, if that is written, and the others. -/
theorem Layout.toTomlMembers_cons_ok {key : String} {p : Presence} {s : Shape} {rest : Layout}
    {v : p.Slot s.Carrier} {more : rest.Carrier} {ms : List (String × Toml)} :
    (Layout.cons key p s rest).toTomlMembers (v, more) = .ok ms ↔
      (p.written? s v = none ∧ rest.toTomlMembers more = .ok ms) ∨
        ∃ w t r, p.written? s v = some w ∧ s.toToml w = .ok t ∧ rest.toTomlMembers more = .ok r ∧
          ms = (key, t) :: r := by
  rw [Layout.toTomlMembers]
  cases hwritten : p.written? s v with
  | none => simp
  | some w =>
    cases ht : s.toToml w with
    | error e => simp [ht]
    | ok t =>
      simp only [ht, map_eq_ok]
      constructor
      · rintro ⟨r, hr, rfl⟩
        exact .inr ⟨w, t, r, rfl, ht, hr, rfl⟩
      · rintro (⟨h, -⟩ | ⟨w', t', r, hw, ht', hr, rfl⟩)
        · cases h
        · cases hw
          cases ht.symm.trans ht'
          exact ⟨r, hr, rfl⟩

mutual

/-- A value can be written exactly if its words fit. -/
theorem Shape.toToml_ok_iff : ∀ (s : Shape) (c : s.Carrier),
    (∃ t, s.toToml c = .ok t) ↔ s.fits c = true
  | .text, c => ⟨fun _ => rfl, fun _ => ⟨_, rfl⟩⟩
  | .flag, c => ⟨fun _ => rfl, fun _ => ⟨_, rfl⟩⟩
  | .word width, c => by
    simp only [Shape.toToml, wordToToml_ok_iff, Shape.fits, decide_eq_true_iff]
    exact ⟨fun ⟨_, h, _⟩ => h, fun h => ⟨_, h, rfl⟩⟩
  | .choice _ _, c => ⟨fun _ => rfl, fun _ => ⟨_, rfl⟩⟩
  | .list item, c => by
    rw [Shape.toToml, exists_map_eq_ok, exists_writeAll_iff, Shape.fits, List.all_eq_true]
    exact forall₂_congr fun a _ => Shape.toToml_ok_iff item a
  | .dict item, c => by
    rw [Shape.toToml, exists_map_eq_ok, exists_writeAll_iff, Shape.fits, List.all_eq_true]
    refine forall₂_congr fun e _ => ?_
    rw [exists_map_eq_ok]
    exact Shape.toToml_ok_iff item e.2
  | .record _ fields, c => by
    rw [Shape.toToml, exists_map_eq_ok, Shape.fits]
    exact Layout.toTomlMembers_ok_iff fields c

theorem Layout.toTomlMembers_ok_iff : ∀ (fields : Layout) (c : fields.Carrier),
    (∃ ms, fields.toTomlMembers c = .ok ms) ↔ fields.fits c = true
  | .nil, c => ⟨fun _ => rfl, fun _ => ⟨_, rfl⟩⟩
  | .cons key p s rest, (v, more) => by
    have hmore := Layout.toTomlMembers_ok_iff rest more
    simp only [Layout.toTomlMembers_cons_ok, Layout.fits, Bool.and_eq_true]
    cases hwritten : p.written? s v with
    | none => simpa using hmore
    | some w =>
      rw [Option.all_some, ← Shape.toToml_ok_iff s w, ← hmore]
      constructor
      · rintro ⟨ms, ⟨h, -⟩ | ⟨w', t, r, hw, ht, hr, -⟩⟩
        · cases h
        · cases hw
          exact ⟨⟨t, ht⟩, r, hr⟩
      · rintro ⟨⟨t, ht⟩, r, hr⟩
        exact ⟨_, .inr ⟨w, t, r, rfl, ht, hr, rfl⟩⟩

end

/-! ### Values that were read -/

mutual

/-- Whether all values that stand for absent fields fit. -/
def Shape.standardsFit : Shape → Bool
  | .list item => item.standardsFit
  | .dict item => item.standardsFit
  | .record _ fields => fields.standardsFit
  | _ => true

/-- The same for each field of a record. -/
def Layout.standardsFit : Layout → Bool
  | .nil => true
  | .cons _ p s rest =>
    s.standardsFit && (p.absent? s).all (fun v => (p.written? s v).all s.fits) && rest.standardsFit

end

theorem Layout.standardsFit_cons {key : String} {p : Presence} {s : Shape} {rest : Layout} :
    (Layout.cons key p s rest).standardsFit = true ↔
      s.standardsFit = true ∧
      (∀ v, p.absent? s = some v → (p.written? s v).all s.fits = true) ∧
      rest.standardsFit = true := by
  rw [Layout.standardsFit, Bool.and_eq_true, Bool.and_eq_true, and_assoc, Option.all_eq_true]

/-- The fields of a record that were found so far fit. -/
def Layout.DraftFits : (fields : Layout) → fields.Draft → Prop
  | .nil, _ => True
  | .cons _ p s rest, (slot, more) =>
    (∀ v, slot = some v → (p.written? s v).all s.fits = true) ∧ rest.DraftFits more

theorem Layout.draftFits_blank : ∀ fields : Layout, fields.DraftFits fields.blank
  | .nil => trivial
  | .cons _ _ _ rest => ⟨fun _ h => (by cases h), Layout.draftFits_blank rest⟩

/-- A record whose fields fit, those that were found and those that were not. -/
theorem Layout.fits_finish : ∀ (fields : Layout) {draft : fields.Draft} {c : fields.Carrier},
    fields.standardsFit = true → fields.DraftFits draft → fields.finish draft = .ok c →
    fields.fits c = true
  | .nil, _, _, _, _, _ => rfl
  | .cons key p s rest, (slot, more), c, hs, hd, h => by
    obtain ⟨-, habsent, hrest⟩ := Layout.standardsFit_cons.1 hs
    rw [Layout.finish] at h
    split at h
    · cases h
    next v hv =>
      obtain ⟨vs, hvs, rfl⟩ := map_eq_ok.1 h
      have hmore := Layout.fits_finish rest hrest hd.2 hvs
      rw [Layout.fits, Bool.and_eq_true]
      refine ⟨?_, hmore⟩
      -- what was found counts before what stands for an absent field
      cases slot with
      | none => exact habsent v hv
      | some w => exact hd.1 v hv

theorem Presence.absent_of_unreached {p : Presence} {s : Shape} {v : p.Slot s.Carrier}
    (h : p.unreached? s = some v) : p.absent? s = some v := by
  cases p with
  | defaulted value whenEmpty => exact h
  | _ => cases h

/-- What is written for a field that was read is what was read. -/
theorem Presence.read_of_written {V : Type} [Document V] {p : Presence} {s : Shape} {u : V}
    {v : p.Slot s.Carrier} {w : s.Carrier} (hv : p.ofDocument s.ofDocument u = .ok v)
    (hw : p.written? s v = some w) : s.ofDocument u = .ok w := by
  cases p with
  | required =>
    cases hw
    exact hv
  | optional =>
    rw [show v = some w from hw, Presence.ofDocument, Presence.ofDocument.optional] at hv
    split at hv
    · cases hv
    · obtain ⟨w', hw', heq⟩ := map_eq_ok.1 hv
      rw [hw', Option.some.inj heq]
  | retired => cases hw
  | defaulted value whenEmpty =>
    simp only [Presence.written?] at hw
    split at hw
    · cases hw
    · cases hw
      exact hv

theorem mem_readAll {V α : Type} {item : V → Except Mismatch α} {vs : List V} {l : List α}
    (h : readAll item vs = .ok l) {a : α} (ha : a ∈ l) : ∃ v ∈ vs, item v = .ok a := by
  induction vs generalizing l with
  | nil =>
    cases h
    exact absurd ha List.not_mem_nil
  | cons v r ih =>
    rw [readAll] at h
    split at h
    · cases h
    next b hb =>
      obtain ⟨l', hl', rfl⟩ := map_eq_ok.1 h
      rcases List.mem_cons.1 ha with rfl | ha
      · exact ⟨v, List.mem_cons_self, hb⟩
      · obtain ⟨v', hv', heq⟩ := ih hl' ha
        exact ⟨v', List.mem_cons_of_mem v hv', heq⟩

theorem mem_readEntries {V α : Type} {item : V → Except Mismatch α} {d d' : Dict α}
    {ms : List (String × V)} (h : readEntries item d ms = .ok d') {e : String × α}
    (he : e ∈ d'.entries) : e ∈ d.entries ∨ ∃ m ∈ ms, item m.2 = .ok e.2 := by
  induction ms generalizing d with
  | nil =>
    cases h
    exact .inl he
  | cons m r ih =>
    rw [readEntries] at h
    split at h
    · cases h
    next a ha =>
      rcases ih h with he | ⟨m', hm', heq⟩
      · rcases Dict.mem_insertEntry he with rfl | he
        · exact .inr ⟨m, List.mem_cons_self, ha⟩
        · exact .inl he
      · exact .inr ⟨m', List.mem_cons_of_mem m hm', heq⟩

/-- What each member keeps of a draft is kept by all of them. -/
theorem readMembers_keeps {V D : Type} {put : String → V → D → Except Mismatch D} {P : D → Prop}
    {ms : List (String × V)}
    (hput : ∀ m ∈ ms, ∀ d next, P d → put m.1 m.2 d = .ok next → P next) {d d' : D} (hd : P d)
    (h : readMembers put d ms = .ok d') : P d' := by
  induction ms generalizing d with
  | nil =>
    cases h
    exact hd
  | cons m r ih =>
    obtain ⟨hm, hr⟩ := List.forall_mem_cons.1 hput
    rw [readMembers] at h
    split at h
    · cases h
    next next hnext => exact ih hr (hm d next hd hnext) h

theorem bounded_of_view_list {v : Toml} (hv : v.Bounded) {vs : List Toml}
    (h : viewToml v = .list vs) : ∀ u ∈ vs, u.Bounded := by
  cases v with
  | list items =>
    cases h
    exact boundedItems_iff.1 hv
  | tables elements =>
    cases h
    exact List.forall_mem_map.2 (boundedElements_iff.1 hv)
  | _ => cases h

theorem bounded_of_view_table {v : Toml} (hv : v.Bounded) {ms : List (String × Toml)}
    (h : viewToml v = .table ms) : ∀ m ∈ ms, m.2.Bounded := by
  cases v with
  | table ms' =>
    cases h
    exact boundedMembers_iff.1 hv
  | moment written =>
    cases h
    exact List.forall_mem_singleton.2 trivial
  | _ => cases h

theorem bounded_of_view_integer {v : Toml} (hv : v.Bounded) {i : Int}
    (h : viewToml v = .integer i) : i < 0x8000000000000000 := by
  cases v with
  | integer j =>
    cases h
    exact hv.2
  | _ => cases h

mutual

/-- What is read from a bounded document fits. -/
theorem Shape.fits_of_ofDocument : ∀ (s : Shape) {v : Toml} {c : s.Carrier},
    s.standardsFit = true → v.Bounded → s.ofDocument v = .ok c → s.fits c = true
  | .text, _, _, _, _, _ => rfl
  | .flag, _, _, _, _, _ => rfl
  | .word width, v, c, _, hv, h => by
    rw [Shape.ofDocument] at h
    split at h
    next i hi =>
      -- the number is that of the document, which has no larger ones
      have hlt := bounded_of_view_integer hv hi
      rw [readWord] at h
      split at h
      · cases h
        refine decide_eq_true ?_
        show i.toNat < _
        omega
      · cases h
    · cases h
  | .choice _ _, _, _, _, _, _ => rfl
  | .list item, v, c, hs, hv, h => by
    rw [Shape.ofDocument] at h
    split at h
    next vs hview =>
      refine List.all_eq_true.2 fun a ha => ?_
      obtain ⟨u, hu, hread⟩ := mem_readAll h ha
      exact Shape.fits_of_ofDocument item hs (bounded_of_view_list hv hview u hu) hread
    · cases h
  | .dict item, v, c, hs, hv, h => by
    rw [Shape.ofDocument] at h
    split at h
    next ms hview =>
      refine List.all_eq_true.2 fun e he => ?_
      rcases mem_readEntries h he with he | ⟨m, hm, hread⟩
      · exact absurd he List.not_mem_nil
      · exact Shape.fits_of_ofDocument item hs (bounded_of_view_table hv hview m hm) hread
    · cases h
  | .record title fields, v, c, hs, hv, h => by
    rw [Shape.ofDocument] at h
    split at h
    next ms hview =>
      split at h
      · cases h
      next draft hdraft =>
        -- the draft fits after each member, so the record does
        have hbounded := bounded_of_view_table hv hview
        have hfits := readMembers_keeps (P := fields.DraftFits)
          (fun m hm d next hd hput => Layout.draftFits_put fields hs (hbounded m hm) hd hput)
          fields.draftFits_blank hdraft
        exact Layout.fits_finish fields hs hfits h
    next vs hview =>
      split at h
      · cases h
      next r hr =>
        obtain ⟨-, -, rfl⟩ := map_eq_ok.1 h
        exact Layout.fits_ofItems fields hs (bounded_of_view_list hv hview) hr
    · cases h

theorem Layout.draftFits_put : ∀ (fields : Layout) {k : String} {v : Toml}
    {draft next : fields.Draft}, fields.standardsFit = true → v.Bounded →
    fields.DraftFits draft → fields.put k v draft = .ok next → fields.DraftFits next
  | .nil, _, _, _, _, _, _, _, _ => trivial
  | .cons key p s rest, k, v, (slot, more), next, hs, hv, hd, h => by
    obtain ⟨hshape, -, hrest⟩ := Layout.standardsFit_cons.1 hs
    rw [Layout.put] at h
    split at h
    · split at h
      · cases h
      · obtain ⟨a, ha, rfl⟩ := map_eq_ok.1 h
        refine ⟨fun b hb => ?_, hd.2⟩
        rw [← Option.some.inj hb, Option.all_eq_true]
        intro w hw
        exact Shape.fits_of_ofDocument s hshape hv (Presence.read_of_written ha hw)
    · obtain ⟨more', hmore', rfl⟩ := map_eq_ok.1 h
      exact ⟨hd.1, Layout.draftFits_put rest hrest hv hd.2 hmore'⟩

theorem Layout.fits_ofItems : ∀ (fields : Layout) {expected : String} {index : Nat}
    {vs : List Toml} {c : fields.Carrier}, fields.standardsFit = true →
    (∀ v ∈ vs, v.Bounded) → fields.ofItems expected index vs = .ok c → fields.fits c = true
  | .nil, _, _, _, _, _, _, _ => rfl
  | .cons key p s rest, expected, index, [], c, hs, hv, h => by
    obtain ⟨-, habsent, hrest⟩ := Layout.standardsFit_cons.1 hs
    rw [Layout.ofItems] at h
    split at h
    · cases h
    next a ha =>
      obtain ⟨more, hmore, rfl⟩ := map_eq_ok.1 h
      rw [Layout.fits, Bool.and_eq_true]
      exact ⟨habsent a (Presence.absent_of_unreached ha), Layout.fits_ofItems rest hrest hv hmore⟩
  | .cons key p s rest, expected, index, v :: vs, c, hs, hv, h => by
    obtain ⟨hshape, -, hrest⟩ := Layout.standardsFit_cons.1 hs
    obtain ⟨hv, hvs⟩ := List.forall_mem_cons.1 hv
    rw [Layout.ofItems] at h
    split at h
    · cases h
    next a ha =>
      obtain ⟨more, hmore, rfl⟩ := map_eq_ok.1 h
      rw [Layout.fits, Bool.and_eq_true, Option.all_eq_true]
      refine ⟨fun w hw => ?_, Layout.fits_ofItems rest hrest hvs hmore⟩
      exact Shape.fits_of_ofDocument s hshape hv (Presence.read_of_written ha hw)

end

/-- What was read from a text can be written. -/
theorem toToml_of_fromToml {α : Type} [Shaped α] (hs : (Shaped.shape α).standardsFit = true)
    {text : String} {a : α} (h : fromToml α text = .ok a) : ∃ t, toToml a = .ok t := by
  rw [fromToml] at h
  split at h
  · cases h
  next ms hms =>
    obtain ⟨c, hc, rfl⟩ := map_eq_ok.1 (mapError_eq_ok.1 h)
    have hbounded : (Toml.table ms).Bounded := bounded_parse hms
    have hfits := Shape.fits_of_ofDocument _ hs hbounded hc
    rw [toToml, exists_map_eq_ok, Shaped.pack_unpack]
    exact (Shape.toToml_ok_iff _ c).2 hfits

end RealmRegistry.Schema
