/-
Reading straight from a text, and from its outline.

A reader that goes straight from the text to a record has no value of the text in between.  It finds
what is read from the outline of the text: the kind of a value is told by its first character either
way, each element and each member makes the same step, and what is passed over has an outline too.

* `Follows` — a reader finds what is read from the outline;
* `gathers_itemsFromText_iff_outline`, `gathers_membersFromText_iff_outline` — lists and objects;
* `Shape.follows` — every shape is read as from the outline;
* `fromText_eq_ok_iff` — and so is a whole text.
-/
import RealmRegistry.Proofs.Json.Outline
import RealmRegistry.Proofs.Schema.Members
import RealmRegistry.Proofs.Schema.Readers

namespace RealmRegistry.Schema

open RealmRegistry.Text RealmRegistry.Json

/-! ### Readers that follow the outline -/

/-- A reader finds what is read from the outline, and leaves the same. -/
def Follows {α : Type} (depth : Nat) (r : FlawReader α) (read : Json → Except Mismatch α) : Prop :=
  ∀ s a rest, Reads r s a rest ↔ ∃ v, Reads (readOutline depth) s v rest ∧ read v = .ok a

section Scalars

variable {α : Type} {depth : Nat} {s rest : List Char} {v : Json}

/-- A value shows all that it is. -/
theorem eq_of_view {v w : Json} (h : Document.view v = Document.view w) : v = w := by
  cases v <;> cases w <;> cases h <;> rfl

/-- Only what begins a value has to be looked at if nothing is read from what is passed over. -/
theorem follows_of_leads {r : FlawReader α} {read : Json → Except Mismatch α}
    (hunread : ∀ a, read unread ≠ .ok a)
    (h : ∀ s a rest, Reads r s a rest ↔ ∃ c u v, skipSpace s = c :: u ∧
      Leads (readOutline depth) c u v rest ∧ read v = .ok a) : Follows (depth + 1) r read := by
  intro s a rest
  rw [h]
  constructor
  · rintro ⟨c, u, v, hs, hleads, hread⟩
    exact ⟨v, reads_outline_of_open (reads_readOpen_iff.2 ⟨c, u, hs, hleads⟩), hread⟩
  · rintro ⟨v, houtline, hread⟩
    rcases reads_open_or_passOver houtline with hopen | hpass
    · obtain ⟨c, u, hs, hleads⟩ := reads_readOpen_iff.1 hopen
      exact ⟨c, u, v, hs, hleads, hread⟩
    · obtain rfl := (reads_passOver_iff.1 hpass).2
      exact absurd hread (hunread a)

/-- Nothing of any shape is read from a value that is passed over. -/
theorem Shape.ofDocument_unread (s : Shape) (c : s.Carrier) : s.ofDocument unread ≠ .ok c := by
  cases s <;> exact nofun

theorem follows_text : Follows (depth + 1) textFromText Shape.text.ofDocument := by
  refine follows_of_leads Shape.text.ofDocument_unread fun s t rest => ?_
  rw [reads_textFromText_iff]
  constructor
  · rintro ⟨r, hs, hread⟩
    exact ⟨'"', r, .text t, hs, .text hread, rfl⟩
  · rintro ⟨c, r, v, hs, hleads, hread⟩
    obtain rfl : v = .text t := eq_of_view (Shape.ofDocument_text_iff.1 hread)
    obtain ⟨rfl, hread⟩ := hleads.of_text
    exact ⟨r, hs, hread⟩

theorem follows_flag : Follows (depth + 1) flagFromText Shape.flag.ofDocument := by
  refine follows_of_leads Shape.flag.ofDocument_unread fun s b rest => ?_
  rw [reads_flagFromText_iff]
  constructor
  · rintro (⟨r, hs, hword, rfl⟩ | ⟨r, hs, hword, rfl⟩)
    · exact ⟨'t', r, .flag true, hs, .yes hword, rfl⟩
    · exact ⟨'f', r, .flag false, hs, .no hword, rfl⟩
  · rintro ⟨c, r, v, hs, hleads, hread⟩
    obtain rfl : v = .flag b := eq_of_view (Shape.ofDocument_flag_iff.1 hread)
    rcases hleads.of_flag with ⟨rfl, hword, hb⟩ | ⟨rfl, hword, hb⟩
    · exact .inl ⟨r, hs, hword, hb⟩
    · exact .inr ⟨r, hs, hword, hb⟩

theorem follows_word (width : Nat) :
    Follows (depth + 1) (wordFromText width) (Shape.word width).ofDocument := by
  refine follows_of_leads (Shape.word width).ofDocument_unread fun s n rest => ?_
  rw [reads_wordFromText_iff]
  constructor
  · rintro ⟨c, r, i, hs, hc, hnumber, hword⟩
    exact ⟨c, r, .integer i, hs, .number hc hnumber, hword⟩
  · rintro ⟨c, r, v, hs, hleads, hread⟩
    obtain ⟨i, hview, hword⟩ := Shape.ofDocument_word_iff.1 hread
    obtain rfl : v = .integer i := eq_of_view hview
    obtain ⟨hc, hnumber⟩ := hleads.of_integer
    exact ⟨c, r, i, hs, hc, hnumber, hword⟩

/-- Null stands in the outline for null. -/
theorem reads_outline_null_iff :
    Reads (readOutline (depth + 1)) s .null rest ↔ Reads nullFromText s () rest := by
  rw [reads_nullFromText_iff]
  constructor
  · intro h
    rcases reads_open_or_passOver h with hopen | hpass
    · obtain ⟨c, r, hs, hleads⟩ := reads_readOpen_iff.1 hopen
      obtain ⟨rfl, hword⟩ := hleads.of_null
      exact ⟨r, hs, hword⟩
    · cases (reads_passOver_iff.1 hpass).2
  · rintro ⟨r, hs, hword⟩
    exact reads_outline_of_open (reads_readOpen_iff.2 ⟨'n', r, hs, .null hword⟩)

/-- What begins like null is null. -/
theorem leads_null {value : Reader (Fault SyntaxError) Json} {r : List Char}
    (h : Leads value 'n' r v rest) : v = .null := by
  generalize hc : 'n' = c at h
  cases h with
  | null => rfl
  | number hn => exact absurd hc.symm (ne_of_begins_number hn (by decide))
  | _ => exact absurd hc (by decide)

theorem choiceOfJson_eq_ok_iff {name : String} :
    Document.choice v = .ok (name, .ok ()) ↔ v = .text name ∨ v = .object [(name, .null)] := by
  constructor
  · intro h
    rw [show Document.choice v = choiceOfJson v from rfl, choiceOfJson.eq_def] at h
    split at h
    · cases h
      exact .inl rfl
    · cases h
      exact .inr rfl
    all_goals cases h
  · rintro (rfl | rfl) <;> rfl

theorem follows_choice (first : String) (others : List String) :
    Follows (depth + 2) (choiceFromText first others) (Shape.choice first others).ofDocument := by
  refine follows_of_leads (Shape.choice first others).ofDocument_unread fun s i rest => ?_
  rw [reads_choiceFromText_iff]
  -- A choice is written as its name, or as an object of the name and `null`.
  constructor
  · rintro (⟨r, hs, hread⟩ | ⟨r, hs, hread⟩)
    · obtain ⟨name, htext, hname⟩ := reads_choiceNameFromText_iff.1 hread
      exact ⟨'"', r, .text name, hs, .text htext,
        Shape.ofDocument_choice_iff.2 ⟨name, choiceOfJson_eq_ok_iff.2 (.inl rfl), hname⟩⟩
    · obtain ⟨t, u, v, w, hquote, hchoice, hcolon, hnull, hend⟩ :=
        reads_choiceObjectFromText_iff.1 hread
      obtain ⟨name, htext, hname⟩ := reads_choiceNameFromText_iff.1 hchoice
      obtain ⟨hle, hnext⟩ := nextMember_of_quote hquote
      have hmembers :
          Gathers (Json.readMembers (readOutline (depth + 1)) true) r [(name, .null)] w := by
        refine gathers_readMembers_cons_iff.2 ⟨_, u, v, w, hnext, htext, hcolon,
          reads_outline_null_iff.2 hnull, ?_⟩
        exact gathers_readMembers_nil_iff.2 ⟨nextMember_of_close false hend, rfl⟩
      exact ⟨'{', r, .object [(name, .null)], hs, .object hmembers (reads_endObject_iff.2 hend),
        Shape.ofDocument_choice_iff.2 ⟨name, choiceOfJson_eq_ok_iff.2 (.inr rfl), hname⟩⟩
  · rintro ⟨c, r, v, hs, hleads, hread⟩
    obtain ⟨name, hchoice, hname⟩ := Shape.ofDocument_choice_iff.1 hread
    rcases choiceOfJson_eq_ok_iff.1 hchoice with rfl | rfl
    · obtain ⟨rfl, htext⟩ := hleads.of_text
      exact .inl ⟨r, hs, reads_choiceNameFromText_iff.2 ⟨name, htext, hname⟩⟩
    · obtain ⟨rfl, w, hmembers, hend⟩ := hleads.of_object
      obtain ⟨t, u, v, x, hnext, htext, hcolon, hnull, hmore⟩ :=
        gathers_readMembers_cons_iff.1 hmembers
      obtain ⟨-, rfl⟩ := gathers_readMembers_nil_iff.1 hmore
      have hmember := MemberAt.of_nextMember hnext
      rw [Option.map_some] at hmember
      generalize t.1 = key at htext hmember
      cases hmember with
      | first hquote =>
        exact .inr ⟨r, hs, reads_choiceObjectFromText_iff.2 ⟨key, u, v, w, hquote,
          reads_choiceNameFromText_iff.2 ⟨name, htext, hname⟩, hcolon,
          reads_outline_null_iff.1 hnull, reads_endObject_iff.1 hend⟩⟩

end Scalars

/-! ### Fields, lists and objects -/

section Parts

variable {α D : Type} {depth : Nat} {item : FlawReader α} {read : Json → Except Mismatch α}
  {place : String → D → Placement D} {put : String → Json → D → Except Mismatch D}
  {s w rest : List Char}

theorem Follows.map {β : Type} (h : Follows depth item read) (f : α → β) :
    Follows depth (item.map f) fun v => (read v).map f := by
  intro s b rest
  rw [reads_map_iff]
  constructor
  · rintro ⟨a, hread, rfl⟩
    obtain ⟨v, houtline, hv⟩ := (h s a rest).1 hread
    exact ⟨v, houtline, map_eq_ok.2 ⟨a, hv, rfl⟩⟩
  · rintro ⟨v, houtline, hmap⟩
    obtain ⟨a, hv, rfl⟩ := map_eq_ok.1 hmap
    exact ⟨a, (h s a rest).2 ⟨v, houtline, hv⟩, rfl⟩

theorem Follows.optional (h : Follows (depth + 1) item read) (hunread : ∀ a, read unread ≠ .ok a) :
    Follows (depth + 1) (optionalFromText item) (Presence.ofDocument.optional read) := by
  intro s a rest
  rw [reads_optionalFromText_iff]
  constructor
  · rintro (⟨r, hs, hword, rfl⟩ | ⟨hs, b, hread, rfl⟩)
    · exact ⟨.null, reads_outline_null_iff.2 (reads_nullFromText_iff.2 ⟨r, hs, hword⟩), rfl⟩
    · obtain ⟨v, houtline, hv⟩ := (h s b rest).1 hread
      have hnull : v ≠ .null := by
        rintro rfl
        obtain ⟨r, hr, -⟩ := reads_nullFromText_iff.1 (reads_outline_null_iff.1 houtline)
        exact hs r hr
      refine ⟨v, houtline, ?_⟩
      rw [Presence.optional_of_view fun hview => hnull (eq_of_view hview), hv]
      rfl
  · rintro ⟨v, houtline, hmap⟩
    by_cases hnull : v = .null
    · subst hnull
      obtain ⟨r, hs, hword⟩ := reads_nullFromText_iff.1 (reads_outline_null_iff.1 houtline)
      exact .inl ⟨r, hs, hword, (Except.ok.inj hmap).symm⟩
    · rw [Presence.optional_of_view fun hview => hnull (eq_of_view hview)] at hmap
      obtain ⟨b, hv, rfl⟩ := map_eq_ok.1 hmap
      refine .inr ⟨fun r hr => ?_, b, (h s b rest).2 ⟨v, houtline, hv⟩, rfl⟩
      rcases reads_open_or_passOver houtline with hopen | hpass
      · obtain ⟨c, u, hu, hleads⟩ := reads_readOpen_iff.1 hopen
        obtain ⟨rfl, rfl⟩ := List.cons.inj (hr.symm.trans hu)
        exact hnull (leads_null hleads)
      · obtain rfl := (reads_passOver_iff.1 hpass).2
        exact hunread b hv

theorem Presence.follows (p : Presence) (h : Follows (depth + 1) item read)
    (hunread : ∀ a, read unread ≠ .ok a) :
    Follows (depth + 1) (p.fromText item) (p.ofDocument read) := by
  cases p with
  | required => exact h
  | optional => exact h.optional hunread
  | retired => exact h.optional hunread
  | defaulted _ _ => exact h

/-- The elements of a list are read as from those of the outline. -/
theorem gathers_itemsFromText_iff_outline (h : Follows depth item read) {first : Bool}
    {as : List α} :
    Gathers (itemsFromText item first) s as w ↔
      ∃ vs, Gathers (readItems (readOutline depth) first) s vs w ∧ readAll read vs = .ok as := by
  induction as generalizing s first with
  | nil =>
    simp only [readAll_nil_iff, exists_eq_right]
    rw [gathers_itemsFromText_nil_iff, gathers_readItems_nil_iff]
  | cons a as ih =>
    rw [gathers_itemsFromText_cons_iff]
    constructor
    · rintro ⟨t, u, hnext, hread, hmore⟩
      obtain ⟨v, houtline, hv⟩ := (h t.1 a u).1 hread
      obtain ⟨vs, hitems, hvs⟩ := ih.1 hmore
      exact ⟨v :: vs, gathers_readItems_cons_iff.2 ⟨t, u, hnext, houtline, hitems⟩,
        readAll_cons_iff.2 ⟨v, vs, rfl, hv, hvs⟩⟩
    · rintro ⟨_, hitems, hread⟩
      obtain ⟨v, vs, rfl, hv, hvs⟩ := readAll_cons_iff.1 hread
      obtain ⟨t, u, hnext, houtline, hmore⟩ := gathers_readItems_cons_iff.1 hitems
      exact ⟨t, u, hnext, (h t.1 a u).2 ⟨v, houtline, hv⟩, ih.2 ⟨vs, hmore, hvs⟩⟩

/-- The value of each member goes where it goes from the outline. -/
def FollowsPlace (depth : Nat) (place : String → D → Placement D)
    (put : String → Json → D → Except Mismatch D) : Prop :=
  ∀ k draft s next rest, Placed s draft (place k draft) next rest ↔
    ∃ v, Reads (readOutline depth) s v rest ∧ put k v draft = .ok next

theorem Placed.shorter {draft next : D} {placement : Placement D}
    (h : Placed s draft placement next rest) : rest.length < s.length := by
  cases h with
  | unknown h => exact h.1
  | vacant h => exact h.1

/-- The members of an object are read as from those of the outline, -/
theorem gathers_readMembers_of_fromText (h : FollowsPlace depth place put) {first : Bool}
    {s : List Char} {draft final : D}
    (hmembers : Gathers (membersFromText place first draft) s final w) :
    ∃ ms, Gathers (Json.readMembers (readOutline depth) first) s ms w ∧
      Schema.readMembers put draft ms = .ok final := by
  rcases gathers_membersFromText_iff.1 hmembers with
    ⟨hnext, rfl, rfl⟩ | ⟨t, k, c, r, next, u, hnext, hkey, hcolon, hplaced, hmore⟩
  · exact ⟨[], gathers_readMembers_nil_iff.2 ⟨hnext, rfl⟩, rfl⟩
  · have hlt : u.length < s.length :=
      Nat.lt_of_lt_of_le hplaced.shorter (Nat.le_trans hcolon.1
        (Nat.le_trans (Nat.le_of_lt hkey.1) t.2))
    obtain ⟨v, houtline, hput⟩ := (h k draft r next u).1 hplaced
    obtain ⟨ms, hrest, hread⟩ := gathers_readMembers_of_fromText h hmore
    refine ⟨(k, v) :: ms, gathers_readMembers_cons_iff.2 ⟨t, c, r, u, hnext, hkey, hcolon,
      houtline, hrest⟩, ?_⟩
    rw [Schema.readMembers, hput]
    exact hread
termination_by s.length

/-- and nothing else. -/
theorem gathers_membersFromText_iff_outline (h : FollowsPlace depth place put) {first : Bool}
    {draft final : D} :
    Gathers (membersFromText place first draft) s final w ↔
      ∃ ms, Gathers (Json.readMembers (readOutline depth) first) s ms w ∧
        Schema.readMembers put draft ms = .ok final := by
  refine ⟨gathers_readMembers_of_fromText h, ?_⟩
  rintro ⟨ms, hmembers, hread⟩
  induction ms generalizing s first draft with
  | nil =>
    cases hread
    obtain ⟨hnext, rfl⟩ := gathers_readMembers_nil_iff.1 hmembers
    exact gathers_membersFromText_iff.2 (.inl ⟨hnext, rfl, rfl⟩)
  | cons m ms ih =>
    obtain ⟨k, v⟩ := m
    obtain ⟨t, c, r, u, hnext, hkey, hcolon, houtline, hmore⟩ :=
      gathers_readMembers_cons_iff.1 hmembers
    rw [Schema.readMembers] at hread
    split at hread
    · cases hread
    next next hput =>
      have hplaced := (h k draft r next u).2 ⟨v, houtline, hput⟩
      exact gathers_membersFromText_iff.2 (.inr ⟨t, k, c, r, next, u, hnext, hkey, hcolon,
        hplaced, ih hmore hread⟩)

/-- An entry of any key is read into a dictionary. -/
theorem followsPlace_dict (h : Follows depth item read) :
    FollowsPlace depth (fun k (d : Dict α) => .vacant (item.map (d.insert k)))
      fun k v d => (read v).map (d.insert k) := by
  intro k d s next rest
  rw [placed_vacant_iff]
  exact h.map (d.insert k) s next rest

end Parts

/-! ### Records -/

section Records

variable {depth : Nat} {key : String} {p : Presence} {shape : Shape} {fields rest : Layout}
  {expected : String} {index : Nat} {s w e : List Char}

theorem followsPlace_nil : FollowsPlace depth Layout.nil.place Layout.nil.put := by
  intro k draft s next e
  rw [Layout.place, placed_unknown_iff]
  constructor
  · rintro ⟨hskip, rfl⟩
    obtain ⟨v, houtline⟩ := exists_reads_outline_iff.2 hskip
    exact ⟨v, houtline, rfl⟩
  · rintro ⟨v, houtline, hput⟩
    exact ⟨exists_reads_outline_iff.1 ⟨v, houtline⟩, Except.ok.inj hput⟩

/-- A member goes to the first field or among the others. -/
theorem followsPlace_cons
    (hslot : Follows depth (p.fromText shape.fromText) (p.ofDocument shape.ofDocument))
    (hrest : FollowsPlace depth rest.place rest.put) :
    FollowsPlace depth (Layout.cons key p shape rest).place (Layout.cons key p shape rest).put := by
  rintro k ⟨slot, more⟩ s ⟨slot', more'⟩ e
  rw [Layout.place]
  simp only [Layout.put]
  by_cases hk : k = key
  · simp only [if_pos hk]
    cases hsome : slot.isSome with
    | true =>
      simp only [if_true]
      constructor
      · intro h
        cases h
      · rintro ⟨_, _, h⟩
        cases h
    | false =>
      simp only [if_neg Bool.false_ne_true]
      rw [placed_vacant_iff]
      exact hslot.map (fun a => (some a, more)) s (slot', more') e
  · simp only [if_neg hk]
    have hplaced := hrest k more s more' e
    -- the other fields are put beside the first one, which stays as it is
    have hput : (∃ v, Reads (readOutline depth) s v e ∧
        (rest.put k v more).map (fun next => (slot, next)) = .ok (slot', more')) ↔
        Placed s more (rest.place k more) more' e ∧ slot = slot' := by
      rw [hplaced]
      constructor
      · rintro ⟨v, houtline, hmap⟩
        obtain ⟨next, hput, heq⟩ := map_eq_ok.1 hmap
        cases heq
        exact ⟨⟨v, houtline, hput⟩, rfl⟩
      · rintro ⟨⟨v, houtline, hput⟩, rfl⟩
        exact ⟨v, houtline, map_eq_ok.2 ⟨more', hput, rfl⟩⟩
    rw [hput]
    generalize rest.place k more = placement
    cases placement with
    | unknown =>
      dsimp only
      rw [placed_unknown_iff, placed_unknown_iff, Prod.mk.injEq, and_assoc,
        and_comm (b := slot = _)]
    | taken =>
      constructor
      · intro h
        cases h
      · rintro ⟨h, -⟩
        cases h
    | vacant reader =>
      dsimp only
      rw [placed_vacant_iff, placed_vacant_iff, reads_map_iff]
      constructor
      · rintro ⟨next, h, heq⟩
        cases heq
        exact ⟨h, rfl⟩
      · rintro ⟨h, rfl⟩
        exact ⟨more', h, rfl⟩

/-- The steps of reading the fields of a record from a list. -/
theorem Layout.gathers_itemsFromText_cons_iff {a : p.Slot shape.Carrier} {more : rest.Carrier} :
    Gathers ((Layout.cons key p shape rest).itemsFromText expected index) s (a, more) w ↔
      (nextItem (index == 0) s = .ok none ∧ p.unreached? shape = some a ∧
        Gathers (rest.itemsFromText expected (index + 1)) s more w) ∨
      ∃ t u, nextItem (index == 0) s = .ok (some t) ∧ Reads (p.fromText shape.fromText) t.1 a u ∧
        Gathers (rest.itemsFromText expected (index + 1)) u more w := by
  constructor
  · rintro ⟨hle, h⟩
    rw [Layout.itemsFromText] at h
    split at h
    · cases h
    next hnext =>
      split at h
      · rw [atEnd.eq_def] at h
        split at h <;> cases h
      next b hb =>
        obtain ⟨⟨_, w'⟩, hmore, heq⟩ := map_eq_ok.1 h
        cases heq
        exact .inl ⟨hnext, hb, hle, hmore⟩
    next t hnext =>
      split at h
      · cases h
      next b hread =>
        obtain ⟨⟨_, w'⟩, hmore, heq⟩ := map_eq_ok.1 h
        cases heq
        exact .inr ⟨t, b.rest, hnext, ⟨b.shorter, hread⟩, w'.2, hmore⟩
  · rintro (⟨hnext, hb, hw, hmore⟩ | ⟨t, u, hnext, ⟨hu, hread⟩, hw, hmore⟩)
    · refine ⟨hw, ?_⟩
      rw [Layout.itemsFromText, hnext]
      simp only [hb, hmore]
      rfl
    · refine ⟨Nat.le_trans hw (Nat.le_trans (Nat.le_of_lt hu) t.2), ?_⟩
      rw [Layout.itemsFromText, hnext]
      simp only [hread, hmore]
      rfl

/-- The fields of a record are read from a list, up to its closing bracket, as from the elements of
the outline, of which there are no more than fields. -/
def FollowsItems (depth : Nat) (fields : Layout) : Prop :=
  ∀ expected index s c e,
    (∃ w, Gathers (fields.itemsFromText expected index) s c w ∧ Reads endList w () e) ↔
      ∃ vs w, Gathers (readItems (readOutline depth) (index == 0)) s vs w ∧ Reads endList w () e ∧
        fields.ofItems expected index vs = .ok c ∧ vs.length ≤ fields.length

/-- No element is left at the closing bracket. -/
theorem gathers_readItems_at_end {first : Bool} {vs : List Json} (hend : skipSpace s = ']' :: e) :
    Gathers (readItems (readOutline depth) first) s vs w ↔ vs = [] ∧ w = s := by
  have hnext := nextItem_of_close first hend
  constructor
  · intro h
    cases vs with
    | nil => exact ⟨rfl, (gathers_readItems_nil_iff.1 h).2⟩
    | cons v vs =>
      obtain ⟨t, -, hmore, -⟩ := gathers_readItems_cons_iff.1 h
      cases hnext.symm.trans hmore
  · rintro ⟨rfl, rfl⟩
    exact gathers_readItems_nil_iff.2 ⟨hnext, rfl⟩

theorem followsItems_nil : FollowsItems depth .nil := by
  intro expected index s c e
  constructor
  · rintro ⟨w, ⟨hle, h⟩, hend⟩
    cases h
    exact ⟨[], s, (gathers_readItems_at_end (reads_endList_iff.1 hend)).2 ⟨rfl, rfl⟩, hend, rfl,
      Nat.le_refl 0⟩
  · rintro ⟨vs, w, hitems, hend, -, hlength⟩
    obtain rfl := List.length_eq_zero_iff.1 (Nat.le_zero.1 hlength)
    obtain ⟨-, rfl⟩ := gathers_readItems_nil_iff.1 hitems
    exact ⟨w, ⟨Nat.le_refl _, rfl⟩, hend⟩

theorem followsItems_cons
    (hslot : Follows depth (p.fromText shape.fromText) (p.ofDocument shape.ofDocument))
    (hrest : FollowsItems depth rest) : FollowsItems depth (.cons key p shape rest) := by
  rintro expected index s ⟨a, more⟩ e
  constructor
  · rintro ⟨w, hitems, hend⟩
    rcases Layout.gathers_itemsFromText_cons_iff.1 hitems with
      ⟨hnext, hunreached, hmore⟩ | ⟨t, u, hnext, hread, hmore⟩
    · -- the list ends here, and the other fields are not reached either
      obtain ⟨vs, x, hvs, hx, hofItems, -⟩ :=
        (hrest expected (index + 1) s more e).1 ⟨w, hmore, hend⟩
      have hclose : ∃ r, skipSpace s = ']' :: r := by
        have hitem := ItemAt.of_nextItem hnext
        rw [Option.map_none] at hitem
        generalize (index == 0) = first at hitem
        cases hitem with
        | close hs => exact ⟨_, hs⟩
      obtain ⟨r, hclose⟩ := hclose
      obtain ⟨rfl, rfl⟩ := (gathers_readItems_at_end hclose).1 hvs
      exact ⟨[], x, (gathers_readItems_at_end hclose).2 ⟨rfl, rfl⟩, hx,
        Layout.ofItems_nil_iff.2 ⟨hunreached, hofItems⟩, Nat.zero_le _⟩
    · obtain ⟨v, houtline, hv⟩ := (hslot t.1 a u).1 hread
      obtain ⟨vs, x, hvs, hx, hofItems, hlength⟩ :=
        (hrest expected (index + 1) u more e).1 ⟨w, hmore, hend⟩
      exact ⟨v :: vs, x, gathers_readItems_cons_iff.2 ⟨t, u, hnext, houtline, hvs⟩, hx,
        Layout.ofItems_cons_iff.2 ⟨hv, hofItems⟩, Nat.succ_le_succ hlength⟩
  · rintro ⟨vs, w, hvs, hend, hofItems, hlength⟩
    cases vs with
    | nil =>
      obtain ⟨hnext, rfl⟩ := gathers_readItems_nil_iff.1 hvs
      obtain ⟨hunreached, hofItems⟩ := Layout.ofItems_nil_iff.1 hofItems
      obtain ⟨x, hx, hx'⟩ := (hrest expected (index + 1) w more e).2
        ⟨[], w, (gathers_readItems_at_end (reads_endList_iff.1 hend)).2 ⟨rfl, rfl⟩, hend, hofItems,
          Nat.zero_le _⟩
      exact ⟨x, Layout.gathers_itemsFromText_cons_iff.2 (.inl ⟨hnext, hunreached, hx⟩), hx'⟩
    | cons v vs =>
      obtain ⟨t, u, hnext, houtline, hmore⟩ := gathers_readItems_cons_iff.1 hvs
      obtain ⟨hv, hofItems⟩ := Layout.ofItems_cons_iff.1 hofItems
      obtain ⟨x, hx, hx'⟩ := (hrest expected (index + 1) u more e).2
        ⟨vs, w, hmore, hend, hofItems, Nat.le_of_succ_le_succ hlength⟩
      exact ⟨x, Layout.gathers_itemsFromText_cons_iff.2
        (.inr ⟨t, u, hnext, (hslot t.1 a u).2 ⟨v, houtline, hv⟩, hx⟩), hx'⟩

/-- JSON has no room for more elements than fields. -/
@[simp] theorem surplus_eq_ok_iff {count length : Nat} :
    Document.surplus Json count length = .ok () ↔ length ≤ count := by
  show (if count < length then _ else _) = _ ↔ _
  split
  next h => exact ⟨nofun, fun hle => absurd hle (Nat.not_le_of_lt h)⟩
  next h => exact ⟨fun _ => Nat.le_of_not_lt h, fun _ => rfl⟩

theorem follows_record {title : String} (hplace : FollowsPlace depth fields.place fields.put)
    (hitems : FollowsItems depth fields) :
    Follows (depth + 1) (Shape.record title fields).fromText
      (Shape.record title fields).ofDocument := by
  refine follows_of_leads (Shape.record title fields).ofDocument_unread fun s c e => ?_
  rw [reads_record_iff]
  constructor
  · rintro (⟨r, w, hs, hgathers, hend⟩ | ⟨r, w, draft, hs, hgathers, hend, hfinish⟩)
    · obtain ⟨vs, x, hvs, hx, hofItems, hlength⟩ :=
        (hitems (expectedLength title fields) 0 r c e).1 ⟨w, hgathers, hend⟩
      exact ⟨'[', r, .list vs, hs, .list hvs hx, Shape.ofDocument_record_iff.2
        (.inr ⟨vs, rfl, hofItems, surplus_eq_ok_iff.2 hlength⟩)⟩
    · obtain ⟨ms, hms, hread⟩ := (gathers_membersFromText_iff_outline hplace).1 hgathers
      exact ⟨'{', r, .object ms, hs, .object hms hend, Shape.ofDocument_record_iff.2
        (.inl ⟨ms, draft, rfl, hread, hfinish⟩)⟩
  · rintro ⟨c', r, v, hs, hleads, hread⟩
    rcases Shape.ofDocument_record_iff.1 hread with
      ⟨ms, draft, hview, hputs, hfinish⟩ | ⟨vs, hview, hofItems, hsurplus⟩
    · obtain rfl : v = .object ms := eq_of_view hview
      obtain ⟨rfl, w, hms, hend⟩ := hleads.of_object
      exact .inr ⟨r, w, draft, hs, (gathers_membersFromText_iff_outline hplace).2 ⟨ms, hms, hputs⟩,
        hend, hfinish⟩
    · obtain rfl : v = .list vs := eq_of_view hview
      obtain ⟨rfl, w, hvs, hend⟩ := hleads.of_list
      obtain ⟨x, hx, hx'⟩ := (hitems (expectedLength title fields) 0 r c e).2
        ⟨vs, w, hvs, hend, hofItems, surplus_eq_ok_iff.1 hsurplus⟩
      exact .inl ⟨r, x, hs, hx, hx'⟩

end Records

/-! ### Shapes -/

section Shapes

variable {depth : Nat}

theorem follows_list {item : Shape} (h : Follows depth item.fromText item.ofDocument) :
    Follows (depth + 1) (Shape.list item).fromText (Shape.list item).ofDocument := by
  refine follows_of_leads (Shape.list item).ofDocument_unread fun s as e => ?_
  rw [Shape.fromText, reads_bracketed_iff]
  constructor
  · rintro ⟨r, hs, hread⟩
    obtain ⟨w, hgathers, hend⟩ := reads_listFromText_iff.1 hread
    obtain ⟨vs, hvs, hread⟩ := (gathers_itemsFromText_iff_outline h).1 hgathers
    exact ⟨'[', r, .list vs, hs, .list hvs hend, Shape.ofDocument_list_iff.2 ⟨vs, rfl, hread⟩⟩
  · rintro ⟨c, r, v, hs, hleads, hread⟩
    obtain ⟨vs, hview, hread⟩ := Shape.ofDocument_list_iff.1 hread
    obtain rfl : v = .list vs := eq_of_view hview
    obtain ⟨rfl, w, hvs, hend⟩ := hleads.of_list
    exact ⟨r, hs, reads_listFromText_iff.2
      ⟨w, (gathers_itemsFromText_iff_outline h).2 ⟨vs, hvs, hread⟩, hend⟩⟩

theorem follows_dict {item : Shape} (h : Follows depth item.fromText item.ofDocument) :
    Follows (depth + 1) (Shape.dict item).fromText (Shape.dict item).ofDocument := by
  refine follows_of_leads (Shape.dict item).ofDocument_unread fun s d e => ?_
  rw [Shape.fromText, reads_bracketed_iff]
  constructor
  · rintro ⟨r, hs, hread⟩
    obtain ⟨w, hgathers, hend⟩ := reads_dictFromText_iff.1 hread
    obtain ⟨ms, hms, hread⟩ :=
      (gathers_membersFromText_iff_outline (followsPlace_dict h)).1 hgathers
    rw [← readEntries_eq_readMembers] at hread
    exact ⟨'{', r, .object ms, hs, .object hms hend, Shape.ofDocument_dict_iff.2 ⟨ms, rfl, hread⟩⟩
  · rintro ⟨c, r, v, hs, hleads, hread⟩
    obtain ⟨ms, hview, hentries⟩ := Shape.ofDocument_dict_iff.1 hread
    rw [readEntries_eq_readMembers] at hentries
    obtain rfl : v = .object ms := eq_of_view hview
    obtain ⟨rfl, w, hms, hend⟩ := hleads.of_object
    exact ⟨r, hs, reads_dictFromText_iff.2
      ⟨w, (gathers_membersFromText_iff_outline (followsPlace_dict h)).2 ⟨ms, hms, hentries⟩, hend⟩⟩

mutual

/-- Every shape is read as from an outline with enough levels of brackets. -/
theorem Shape.follows : ∀ {s : Shape} {depth : Nat}, s.depth ≤ depth →
    Follows (depth + 2) s.fromText s.ofDocument
  | .text, _, _ => follows_text
  | .flag, _, _ => follows_flag
  | .word width, _, _ => follows_word width
  | .choice first others, _, _ => follows_choice first others
  | .list _, _ + 1, h => follows_list (Shape.follows (Nat.le_of_succ_le_succ h))
  | .dict _, _ + 1, h => follows_dict (Shape.follows (Nat.le_of_succ_le_succ h))
  | .record _ _, _ + 1, h =>
    have hfields := Layout.follows (Nat.le_of_succ_le_succ h)
    follows_record hfields.1 hfields.2

/-- So are the fields of a record. -/
theorem Layout.follows : ∀ {fields : Layout} {depth : Nat}, fields.depth ≤ depth →
    FollowsPlace (depth + 2) fields.place fields.put ∧ FollowsItems (depth + 2) fields
  | .nil, _, _ => ⟨followsPlace_nil, followsItems_nil⟩
  | .cons key p s rest, depth, h => by
    have hshape : Follows (depth + 2) s.fromText s.ofDocument :=
      Shape.follows (Nat.le_trans (Nat.le_max_left _ _) h)
    have hslot := p.follows hshape s.ofDocument_unread
    obtain ⟨hplace, hitems⟩ := Layout.follows (Nat.le_trans (Nat.le_max_right _ _) h)
    exact ⟨followsPlace_cons hslot hplace, followsItems_cons hslot hitems⟩

end

theorem Shape.parse_eq_ok_iff {s : Shape} {text : List Char} {c : s.Carrier} :
    s.parse text = .ok c ↔ ∃ rest, Reads s.fromText text c rest ∧ readEnd rest = .ok () := by
  rw [Shape.parse, bind_eq_ok]
  constructor
  · rintro ⟨t, hread, h⟩
    obtain ⟨⟨⟩, hend, heq⟩ := bind_eq_ok.1 h
    cases heq
    exact ⟨t.rest, ⟨t.shorter, hread⟩, mapError_eq_ok.1 hend⟩
  · rintro ⟨rest, ⟨hlt, hread⟩, hend⟩
    exact ⟨_, hread, bind_eq_ok.2 ⟨(), mapError_eq_ok.2 hend, rfl⟩⟩

/-- A whole text is read as its outline. -/
theorem Shape.parse_eq_ok_iff_outline {s : Shape} (hdepth : s.depth + 2 ≤ maxDepth)
    {text : List Char} {c : s.Carrier} :
    s.parse text = .ok c ↔ ∃ v, outline? text = some v ∧ s.ofDocument v = .ok c := by
  have hfollows : Follows (125 + 2) s.fromText s.ofDocument :=
    Shape.follows (Nat.le_of_add_le_add_right hdepth)
  rw [Shape.parse_eq_ok_iff]
  constructor
  · rintro ⟨rest, hread, hend⟩
    obtain ⟨v, houtline, hv⟩ := (hfollows text c rest).1 hread
    exact ⟨v, outline?_eq_some_iff.2 ⟨rest, houtline, hend⟩, hv⟩
  · rintro ⟨v, houtline, hv⟩
    obtain ⟨rest, houtline, hend⟩ := outline?_eq_some_iff.1 houtline
    exact ⟨rest, (hfollows text c rest).2 ⟨v, houtline, hv⟩, hend⟩

/-- A value is read from a text if and only if it is read from the outline of the text. -/
theorem fromText_eq_ok_iff {α : Type} [Shaped α]
    (hdepth : (Shaped.shape α).depth + 2 ≤ maxDepth) {text : String} {a : α} :
    fromText α text = .ok a ↔
      ∃ v, outline? text.toList = some v ∧ ofDocument α v = .ok a := by
  rw [fromText]
  constructor
  · intro h
    split at h
    next c hparse =>
      cases h
      obtain ⟨v, houtline, hv⟩ := (Shape.parse_eq_ok_iff_outline hdepth).1 hparse
      exact ⟨v, houtline, map_eq_ok.2 ⟨c, hv, rfl⟩⟩
    next => cases h
  · rintro ⟨v, houtline, h⟩
    obtain ⟨c, hv, rfl⟩ := map_eq_ok.1 h
    rw [(Shape.parse_eq_ok_iff_outline hdepth).2 ⟨v, houtline, hv⟩]

end Shapes

end RealmRegistry.Schema
