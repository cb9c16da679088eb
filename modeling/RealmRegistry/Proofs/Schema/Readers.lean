/-
What is read straight from a text.

Each reader of a part of a shape, step by step: what it finds is told by the first character that is
no blank and by what is read behind that.  Only what is found is told here, no complaint.

* `reads_textFromText_iff`, `reads_choiceFromText_iff`, `reads_record_iff` — one reader each;
* `gathers_itemsFromText_cons_iff`, `gathers_membersFromText_iff` — one element, and one member.
-/
import RealmRegistry.Proofs.Json.Steps
import RealmRegistry.Proofs.Schema.Text

namespace RealmRegistry.Schema

open RealmRegistry.Text RealmRegistry.Json

/-! ### What each reader reads -/

section Readers

variable {c : Char} {s r rest : List Char}

theorem afterChar?_eq_some_iff {t : Taken Unit s} :
    afterChar? c s = some t ↔ skipSpace s = c :: t.rest := by
  rw [afterChar?]
  rcases hs : afterSpace s with ⟨_ | ⟨d, u⟩, hle⟩
  · have hspace : skipSpace s = [] := congrArg Subtype.val hs
    rw [hspace]
    constructor <;> intro h <;> cases h
  · have hspace : skipSpace s = d :: u := congrArg Subtype.val hs
    rw [hspace, Rest.first?]
    constructor
    · intro h
      split at h
      next hd =>
        cases h
        rw [hd]
      next => cases h
    · intro h
      obtain ⟨rfl, rfl⟩ := List.cons.inj h
      exact if_pos rfl

theorem exists_afterChar? (hs : skipSpace s = c :: r) :
    ∃ hlt, afterChar? c s = some ⟨(), r, hlt⟩ :=
  have hlt : r.length < s.length := length_of_skipSpace hs
  ⟨hlt, afterChar?_eq_some_iff.2 hs⟩

theorem afterChar?_eq_none_iff : afterChar? c s = none ↔ ∀ r, skipSpace s ≠ c :: r := by
  constructor
  · intro h r hs
    obtain ⟨hlt, hafter⟩ := exists_afterChar? hs
    cases h.symm.trans hafter
  · intro h
    cases hafter : afterChar? c s with
    | none => rfl
    | some t => exact absurd (afterChar?_eq_some_iff.1 hafter) (h t.rest)

/-- A text begins with at most one character. -/
theorem afterChar?_of_ne {d : Char} (hs : skipSpace s = c :: r) (hne : c ≠ d) :
    afterChar? d s = none := by
  refine afterChar?_eq_none_iff.2 fun u hu => hne ?_
  rw [hs] at hu
  exact (List.cons.inj hu).1

@[simp] theorem lift_eq_ok {α : Type} {x : Except (Fault SyntaxError) (Taken α s)} {t : Taken α s} :
    lift x = .ok t ↔ x = .ok t :=
  mapError_eq_ok

theorem nameFromText_eq_ok_iff {α : Type} {a b : α} {word : List Char} {t : Taken Unit s}
    {hlt : rest.length < s.length} : nameFromText a word t = .ok ⟨b, rest, hlt⟩ ↔
      Passes (Json.readWord word) t.rest rest ∧ b = a := by
  rw [nameFromText, lift_eq_ok, map_eq_ok]
  constructor
  · rintro ⟨u, hword, heq⟩
    cases heq
    exact ⟨⟨u.2, hword⟩, rfl⟩
  · rintro ⟨⟨hle, hword⟩, rfl⟩
    exact ⟨_, hword, rfl⟩

/-- A reader of a name reads its letters. -/
theorem exists_nameFromText {α : Type} (a : α) {word : List Char} (hs : skipSpace s = c :: r)
    (h : Passes (Json.readWord word) r rest) :
    ∃ hlt hlt', afterChar? c s = some ⟨(), r, hlt⟩ ∧
      nameFromText a word (⟨(), r, hlt⟩ : Taken Unit s) = .ok ⟨a, rest, hlt'⟩ := by
  obtain ⟨hlt, hafter⟩ := exists_afterChar? hs
  have hlt' := Nat.lt_of_le_of_lt h.1 hlt
  exact ⟨hlt, hlt', hafter, nameFromText_eq_ok_iff.2 ⟨h, rfl⟩⟩

theorem reads_textFromText_iff {t : String} : Reads textFromText s t rest ↔
    ∃ r, skipSpace s = '"' :: r ∧ Reads Json.readText r t rest := by
  -- as with all these readers: what it read tells what it found, and on what it finds it is run
  constructor
  · rintro ⟨hlt, h⟩
    rw [textFromText] at h
    split at h
    next u hafter =>
      obtain ⟨v, hread, heq⟩ := map_eq_ok.1 (lift_eq_ok.1 h)
      cases heq
      exact ⟨u.rest, afterChar?_eq_some_iff.1 hafter, v.shorter, hread⟩
    next => cases h
  · rintro ⟨r, hs, hlt, hread⟩
    obtain ⟨hr, hafter⟩ := exists_afterChar? hs
    refine ⟨Nat.lt_trans hlt hr, ?_⟩
    rw [textFromText, hafter]
    simp only [hread]
    rfl

theorem reads_flagFromText_iff {b : Bool} : Reads flagFromText s b rest ↔
    (∃ r, skipSpace s = 't' :: r ∧ Passes (Json.readWord ['r', 'u', 'e']) r rest ∧ b = true) ∨
      ∃ r, skipSpace s = 'f' :: r ∧ Passes (Json.readWord ['a', 'l', 's', 'e']) r rest ∧
        b = false := by
  constructor
  · rintro ⟨hlt, h⟩
    rw [flagFromText] at h
    split at h
    next u hafter =>
      exact .inl ⟨u.rest, afterChar?_eq_some_iff.1 hafter, nameFromText_eq_ok_iff.1 h⟩
    next =>
      split at h
      next u hafter =>
        exact .inr ⟨u.rest, afterChar?_eq_some_iff.1 hafter, nameFromText_eq_ok_iff.1 h⟩
      next => cases h
  · rintro (⟨r, hs, hword, rfl⟩ | ⟨r, hs, hword, rfl⟩)
    · obtain ⟨hr, hlt, hafter, hname⟩ := exists_nameFromText true hs hword
      refine ⟨hlt, ?_⟩
      rw [flagFromText, hafter]
      exact hname
    · -- true is tried first, but the first letter is another one
      obtain ⟨hr, hlt, hafter, hname⟩ := exists_nameFromText false hs hword
      refine ⟨hlt, ?_⟩
      rw [flagFromText, afterChar?_of_ne hs (by decide), hafter]
      exact hname

theorem reads_wordFromText_iff {width : Nat} {n : Fin (wordCount width)} :
    Reads (wordFromText width) s n rest ↔
      ∃ c r i, skipSpace s = c :: r ∧ (c = '-' ∨ c.isDigit) ∧
        Reads readNumber (c :: r) (.integer i) rest ∧ Schema.readWord width i = .ok n := by
  constructor
  · rintro ⟨hlt, h⟩
    rw [wordFromText] at h
    rcases hs : afterSpace s with ⟨_ | ⟨c, r⟩, hle⟩
    · rw [hs] at h
      cases h
    have hspace : skipSpace s = c :: r := congrArg Subtype.val hs
    rw [hs] at h
    dsimp only at h
    split at h
    next hc =>
      -- the number has to be a whole one, and to fit
      split at h
      · cases h
      next t hnumber =>
        split at h
        · cases h
        next i hi =>
          split at h
          next m hword =>
            cases h
            exact ⟨c, r, i, hspace, hc, ⟨t.shorter, hi ▸ hnumber⟩, hword⟩
          next => cases h
    next => cases h
  · rintro ⟨c, r, i, hs, hc, ⟨hlt, hnumber⟩, hword⟩
    obtain ⟨hle, hafter⟩ := afterSpace_eq hs
    refine ⟨Nat.lt_of_lt_of_le hlt hle, ?_⟩
    rw [wordFromText, hafter]
    simp only [if_pos hc, hnumber, hword]
    rfl

theorem reads_nullFromText_iff : Reads nullFromText s () rest ↔
    ∃ r, skipSpace s = 'n' :: r ∧ Passes (Json.readWord ['u', 'l', 'l']) r rest := by
  constructor
  · rintro ⟨hlt, h⟩
    rw [nullFromText] at h
    split at h
    next u hafter =>
      exact ⟨u.rest, afterChar?_eq_some_iff.1 hafter, (nameFromText_eq_ok_iff.1 h).1⟩
    next => cases h
  · rintro ⟨r, hs, hword⟩
    obtain ⟨hr, hlt, hafter, hname⟩ := exists_nameFromText () hs hword
    refine ⟨hlt, ?_⟩
    rw [nullFromText, hafter]
    exact hname

section Choices

variable {first : String} {others : List String} {i : Fin (others.length + 1)}

theorem reads_choiceNameFromText_iff : Reads (choiceNameFromText first others) s i rest ↔
    ∃ name, Reads Json.readText s name rest ∧ readChoice first others name = .ok i := by
  constructor
  · rintro ⟨hlt, h⟩
    rw [choiceNameFromText] at h
    split at h
    · cases h
    next t hread =>
      split at h
      next j hchoice =>
        cases h
        exact ⟨t.value, ⟨t.shorter, hread⟩, hchoice⟩
      next => cases h
  · rintro ⟨name, ⟨hlt, hread⟩, hchoice⟩
    refine ⟨hlt, ?_⟩
    rw [choiceNameFromText, hread]
    simp only [hchoice]
    rfl

theorem reads_choiceObjectFromText_iff : Reads (choiceObjectFromText first others) s i rest ↔
    ∃ r u v w, skipSpace s = '"' :: r ∧ Reads (choiceNameFromText first others) r i u ∧
      Passes readColon u v ∧ Reads nullFromText v () w ∧ skipSpace w = '}' :: rest := by
  constructor
  · rintro ⟨hlt, h⟩
    rw [choiceObjectFromText] at h
    -- a quote, the name, a colon, null and the closing bracket, one behind the other
    split at h
    · split at h <;> cases h
    next t hafter =>
      split at h
      · cases h
      next j hname =>
        split at h
        · cases h
        next u hcolon =>
          split at h
          · cases h
          next n hnull =>
            rcases hw : afterSpace n.rest with ⟨_ | ⟨c, r⟩, hle⟩
            · rw [hw] at h
              cases h
            have hspace : skipSpace n.rest = c :: r := congrArg Subtype.val hw
            rw [hw] at h
            dsimp only at h
            split at h
            next hc =>
              cases h
              exact ⟨t.rest, j.rest, u.1, n.rest, afterChar?_eq_some_iff.1 hafter,
                ⟨j.shorter, hname⟩, ⟨u.2, hcolon⟩, ⟨n.shorter, hnull⟩, hc ▸ hspace⟩
            next => cases h
  · rintro ⟨r, u, v, w, hs, ⟨hu, hname⟩, ⟨hv, hcolon⟩, ⟨hw, hnull⟩, hend⟩
    obtain ⟨hr, hafter⟩ := exists_afterChar? hs
    obtain ⟨hle, hclose⟩ := afterSpace_eq hend
    have hlt : rest.length < w.length := hle
    refine ⟨by omega, ?_⟩
    rw [choiceObjectFromText, hafter]
    simp only [hname, hcolon, hnull, hclose, if_true]
    rfl

theorem reads_choiceFromText_iff : Reads (choiceFromText first others) s i rest ↔
    (∃ r, skipSpace s = '"' :: r ∧ Reads (choiceNameFromText first others) r i rest) ∨
      ∃ r, skipSpace s = '{' :: r ∧ Reads (choiceObjectFromText first others) r i rest := by
  constructor
  · rintro ⟨hlt, h⟩
    rw [choiceFromText] at h
    split at h
    next t hafter =>
      obtain ⟨u, hname, heq⟩ := map_eq_ok.1 h
      cases heq
      exact .inl ⟨t.rest, afterChar?_eq_some_iff.1 hafter, u.shorter, hname⟩
    next =>
      split at h
      next t hafter =>
        obtain ⟨u, hobject, heq⟩ := map_eq_ok.1 h
        cases heq
        exact .inr ⟨t.rest, afterChar?_eq_some_iff.1 hafter, u.shorter, hobject⟩
      next => split at h <;> cases h
  · rintro (⟨r, hs, hlt, hname⟩ | ⟨r, hs, hlt, hobject⟩)
    · obtain ⟨hr, hafter⟩ := exists_afterChar? hs
      refine ⟨Nat.lt_trans hlt hr, ?_⟩
      rw [choiceFromText, hafter]
      simp only [hname]
      rfl
    · obtain ⟨hr, hafter⟩ := exists_afterChar? hs
      refine ⟨Nat.lt_trans hlt hr, ?_⟩
      rw [choiceFromText, afterChar?_of_ne hs (by decide), hafter]
      simp only [hobject]
      rfl

end Choices

section Fields

variable {α : Type} {item : FlawReader α}

theorem reads_optionalFromText_iff {a : Option α} : Reads (optionalFromText item) s a rest ↔
    (∃ r, skipSpace s = 'n' :: r ∧ Passes (Json.readWord ['u', 'l', 'l']) r rest ∧ a = none) ∨
      (∀ r, skipSpace s ≠ 'n' :: r) ∧ ∃ b, Reads item s b rest ∧ some b = a := by
  constructor
  · rintro ⟨hlt, h⟩
    rw [optionalFromText] at h
    split at h
    next u hafter =>
      exact .inl ⟨u.rest, afterChar?_eq_some_iff.1 hafter, nameFromText_eq_ok_iff.1 h⟩
    next hafter =>
      -- the first letter has decided that it is not null
      obtain ⟨t, hread, heq⟩ := map_eq_ok.1 h
      cases heq
      exact .inr ⟨afterChar?_eq_none_iff.1 hafter, t.value, ⟨t.shorter, hread⟩, rfl⟩
  · rintro (⟨r, hs, hword, rfl⟩ | ⟨hs, b, ⟨hlt, hread⟩, rfl⟩)
    · obtain ⟨hr, hlt, hafter, hname⟩ := exists_nameFromText (none : Option α) hs hword
      refine ⟨hlt, ?_⟩
      rw [optionalFromText, hafter]
      exact hname
    · refine ⟨hlt, ?_⟩
      rw [optionalFromText, afterChar?_eq_none_iff.2 hs]
      simp only [hread]
      rfl

theorem reads_bracketed_iff {bracket : Char} {expected : String} {a : α} :
    Reads (bracketed bracket expected item) s a rest ↔
      ∃ r, skipSpace s = bracket :: r ∧ Reads item r a rest := by
  constructor
  · rintro ⟨hlt, h⟩
    rw [bracketed] at h
    split at h
    next t hafter =>
      obtain ⟨u, hread, heq⟩ := map_eq_ok.1 h
      cases heq
      exact ⟨t.rest, afterChar?_eq_some_iff.1 hafter, u.shorter, hread⟩
    next => cases h
  · rintro ⟨r, hs, hlt, hread⟩
    obtain ⟨hr, hafter⟩ := exists_afterChar? hs
    refine ⟨Nat.lt_trans hlt hr, ?_⟩
    rw [bracketed, hafter]
    simp only [hread]
    rfl

theorem reads_listFromText_iff {as : List α} : Reads (listFromText item) s as rest ↔
    ∃ w, Gathers (itemsFromText item true) s as w ∧ Reads endList w () rest := by
  constructor
  · rintro ⟨hlt, h⟩
    rw [listFromText] at h
    split at h
    · cases h
    next as w hw hitems =>
      obtain ⟨t, hend, heq⟩ := map_eq_ok.1 (lift_eq_ok.1 h)
      cases heq
      exact ⟨w, ⟨hw, hitems⟩, t.shorter, hend⟩
  · rintro ⟨w, ⟨hw, hitems⟩, hlt, hend⟩
    refine ⟨Nat.lt_of_lt_of_le hlt hw, ?_⟩
    rw [listFromText, hitems]
    simp only [hend]
    rfl

theorem reads_dictFromText_iff {d : Dict α} : Reads (dictFromText item) s d rest ↔
    ∃ w, Gathers (membersFromText (fun k d => .vacant (item.map (d.insert k))) true Dict.empty)
      s d w ∧ Reads endObject w () rest := by
  constructor
  · rintro ⟨hlt, h⟩
    rw [dictFromText] at h
    split at h
    · cases h
    next d w hw hmembers =>
      obtain ⟨t, hend, heq⟩ := map_eq_ok.1 (lift_eq_ok.1 h)
      cases heq
      exact ⟨w, ⟨hw, hmembers⟩, t.shorter, hend⟩
  · rintro ⟨w, ⟨hw, hmembers⟩, hlt, hend⟩
    refine ⟨Nat.lt_of_lt_of_le hlt hw, ?_⟩
    rw [dictFromText]
    simp only [hmembers, hend]
    rfl

theorem reads_record_iff {title : String} {fields : Layout} {a : fields.Carrier} :
    Reads (Shape.record title fields).fromText s a rest ↔
      (∃ r w, skipSpace s = '[' :: r ∧
        Gathers (fields.itemsFromText (expectedLength title fields) 0) r a w ∧
        Reads endList w () rest) ∨
      ∃ r w draft, skipSpace s = '{' :: r ∧
        Gathers (membersFromText fields.place true fields.blank) r draft w ∧
        Reads endObject w () rest ∧ fields.finish draft = .ok a := by
  constructor
  · rintro ⟨hlt, h⟩
    rw [Shape.fromText] at h
    dsimp only at h
    split at h
    next t hafter =>
      split at h
      · cases h
      next a w hw hitems =>
        obtain ⟨u, hend, heq⟩ := map_eq_ok.1 (lift_eq_ok.1 h)
        cases heq
        exact .inl ⟨t.rest, w, afterChar?_eq_some_iff.1 hafter, ⟨hw, hitems⟩, u.shorter, hend⟩
    next =>
      split at h
      next t hafter =>
        split at h
        · cases h
        next draft w hw hmembers =>
          -- a draft that cannot be finished is a complaint, whether or not the text ends there
          split at h
          · rw [atEnd.eq_def] at h
            split at h <;> cases h
          next a hfinish =>
            obtain ⟨u, hend, heq⟩ := map_eq_ok.1 (lift_eq_ok.1 h)
            cases heq
            exact .inr ⟨t.rest, w, draft, afterChar?_eq_some_iff.1 hafter, ⟨hw, hmembers⟩,
              ⟨u.shorter, hend⟩, hfinish⟩
      next => cases h
  · rintro (⟨r, w, hs, ⟨hw, hitems⟩, hlt, hend⟩ |
      ⟨r, w, draft, hs, ⟨hw, hmembers⟩, ⟨hlt, hend⟩, hfinish⟩)
    · obtain ⟨hr, hafter⟩ := exists_afterChar? hs
      refine ⟨Nat.lt_trans (Nat.lt_of_lt_of_le hlt hw) hr, ?_⟩
      rw [Shape.fromText]
      simp only [hafter, hitems, hend]
      rfl
    · obtain ⟨hr, hafter⟩ := exists_afterChar? hs
      refine ⟨Nat.lt_trans (Nat.lt_of_lt_of_le hlt hw) hr, ?_⟩
      rw [Shape.fromText]
      simp only [afterChar?_of_ne (d := '[') hs (by decide), hafter, hmembers, hfinish, hend]
      rfl

end Fields

end Readers

/-! ### Elements and members -/

section Steps

variable {α D : Type} {s w : List Char}

/-- The steps of reading the elements of a list. -/
theorem gathers_itemsFromText_iff {item : FlawReader α} {first : Bool} {as : List α} :
    Gathers (itemsFromText item first) s as w ↔
      (nextItem first s = .ok none ∧ as = [] ∧ w = s) ∨
      ∃ t a u as', nextItem first s = .ok (some t) ∧ Reads item t.1 a u ∧
        Gathers (itemsFromText item false) u as' w ∧ as = a :: as' := by
  constructor
  · rintro ⟨hle, h⟩
    rw [itemsFromText] at h
    split at h
    · cases h
    next hnext =>
      cases h
      exact .inl ⟨hnext, rfl, rfl⟩
    next t hnext =>
      split at h
      · cases h
      next a hread =>
        split at h
        · cases h
        next as' r hmore =>
          cases h
          exact .inr ⟨t, a.value, a.rest, as', hnext, ⟨a.shorter, hread⟩, ⟨r.2, hmore⟩, rfl⟩
  · rintro (⟨hnext, rfl, rfl⟩ | ⟨t, a, u, as', hnext, ⟨hu, hread⟩, ⟨hw, hmore⟩, rfl⟩)
    · refine ⟨Nat.le_refl _, ?_⟩
      rw [itemsFromText, hnext]
      rfl
    · refine ⟨Nat.le_trans hw (Nat.le_trans (Nat.le_of_lt hu) t.2), ?_⟩
      rw [itemsFromText, hnext]
      simp only [hread, hmore]
      rfl

theorem gathers_itemsFromText_nil_iff {item : FlawReader α} {first : Bool} :
    Gathers (itemsFromText item first) s [] w ↔ nextItem first s = .ok none ∧ w = s := by
  rw [gathers_itemsFromText_iff]
  simp

theorem gathers_itemsFromText_cons_iff {item : FlawReader α} {first : Bool} {a : α}
    {as : List α} :
    Gathers (itemsFromText item first) s (a :: as) w ↔
      ∃ t u, nextItem first s = .ok (some t) ∧ Reads item t.1 a u ∧
        Gathers (itemsFromText item false) u as w := by
  rw [gathers_itemsFromText_iff]
  constructor
  · rintro (⟨-, ⟨⟩, -⟩ | ⟨t, _, u, _, hnext, hread, hmore, ⟨⟩⟩)
    exact ⟨t, u, hnext, hread, hmore⟩
  · rintro ⟨t, u, hnext, hread, hmore⟩
    exact .inr ⟨t, a, u, as, hnext, hread, hmore, rfl⟩

/-- What the value of a member makes of a draft: one that no field asks for is passed over. -/
inductive Placed (s : List Char) (draft : D) : Placement D → D → List Char → Prop
  | unknown {rest : List Char} (h : Reads skipValue s () rest) :
    Placed s draft .unknown draft rest
  | vacant {reader : FlawReader D} {next : D} {rest : List Char} (h : Reads reader s next rest) :
    Placed s draft (.vacant reader) next rest

theorem placed_unknown_iff {draft next : D} :
    Placed s draft .unknown next w ↔ Reads skipValue s () w ∧ draft = next := by
  constructor
  · intro h
    cases h with
    | unknown h => exact ⟨h, rfl⟩
  · rintro ⟨h, rfl⟩
    exact .unknown h

theorem placed_vacant_iff {reader : FlawReader D} {draft next : D} :
    Placed s draft (.vacant reader) next w ↔ Reads reader s next w := by
  constructor
  · intro h
    cases h with
    | vacant h => exact h
  · exact .vacant

/-- The steps of reading the members of an object. -/
theorem gathers_membersFromText_iff {place : String → D → Placement D} {first : Bool}
    {draft final : D} :
    Gathers (membersFromText place first draft) s final w ↔
      (nextMember first s = .ok none ∧ final = draft ∧ w = s) ∨
      ∃ t k c r next u, nextMember first s = .ok (some t) ∧ Reads Json.readText t.1 k c ∧
        Passes readColon c r ∧ Placed r draft (place k draft) next u ∧
        Gathers (membersFromText place false next) u final w := by
  constructor
  · rintro ⟨hle, h⟩
    rw [membersFromText] at h
    split at h
    · cases h
    next hnext =>
      cases h
      exact .inl ⟨hnext, rfl, rfl⟩
    next t hnext =>
      split at h
      · cases h
      next k hkey =>
        -- the place of the key: taken already, of no field, or waiting for the value
        split at h
        · rw [repeated] at h
          split at h <;> cases h
        next hplace =>
          split at h
          · cases h
          next r hcolon =>
            split at h
            · cases h
            next v hskip =>
              split at h
              · cases h
              next d r' hmore =>
                cases h
                refine .inr ⟨t, k.value, k.rest, r.1, draft, v.rest, hnext, ⟨k.shorter, hkey⟩,
                  ⟨r.2, hcolon⟩, ?_, r'.2, hmore⟩
                rw [hplace]
                exact .unknown ⟨v.shorter, hskip⟩
        next reader hplace =>
          split at h
          · cases h
          next r hcolon =>
            split at h
            · cases h
            next v hread =>
              split at h
              · cases h
              next d r' hmore =>
                cases h
                refine .inr ⟨t, k.value, k.rest, r.1, v.value, v.rest, hnext, ⟨k.shorter, hkey⟩,
                  ⟨r.2, hcolon⟩, ?_, r'.2, hmore⟩
                rw [hplace]
                exact .vacant ⟨v.shorter, hread⟩
  · rintro (⟨hnext, rfl, rfl⟩ | ⟨t, k, c, r, next, u, hnext, ⟨hc, hkey⟩, ⟨hr, hcolon⟩, hplaced,
      ⟨hw, hmore⟩⟩)
    · refine ⟨Nat.le_refl _, ?_⟩
      rw [membersFromText, hnext]
      rfl
    · have ht := t.2
      -- the place is looked up once more, so it is kept as an equation
      generalize hplace : place k draft = placement at hplaced
      cases hplaced with
      | unknown h =>
        obtain ⟨hu, hskip⟩ := h
        refine ⟨by omega, ?_⟩
        rw [membersFromText, hnext]
        simp only [hkey, hplace, hcolon, hskip, hmore]
        rfl
      | vacant h =>
        obtain ⟨hu, hread⟩ := h
        refine ⟨by omega, ?_⟩
        rw [membersFromText, hnext]
        simp only [hkey, hplace, hcolon, hread, hmore]
        rfl

end Steps

end RealmRegistry.Schema
