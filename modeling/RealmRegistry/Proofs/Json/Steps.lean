/-
Reading a list or an object step by step.

What stands between the elements of a list and the members of an object is told by the next
characters that are no blanks, and reading all of them takes one step for each.

* `reads_endList_iff`, `ItemAt.of_nextItem`, `MemberAt.of_nextMember` — separators and closing
  brackets;
* `gathers_readItems_cons_iff`, `gathers_readMembers_cons_iff` — one element, and one member.
-/
import Mathlib.Data.List.DropRight
import RealmRegistry.Proofs.Json.Members

namespace RealmRegistry

open RealmRegistry.Text

namespace Text

variable {ε α β : Type} {s rest : List Char}

theorem reads_map_iff {r : Reader ε α} {f : α → β} {b : β} :
    Reads (r.map f) s b rest ↔ ∃ a, Reads r s a rest ∧ f a = b := by
  constructor
  · rintro ⟨hlt, h⟩
    obtain ⟨⟨a, _, _⟩, hread, heq⟩ := map_eq_ok.1 h
    cases heq
    exact ⟨a, ⟨hlt, hread⟩, rfl⟩
  · rintro ⟨a, h, rfl⟩
    exact h.map f

theorem Reads.eq {r : Reader ε α} {a b : α} {rest' : List Char} (h : Reads r s a rest)
    (h' : Reads r s b rest') : a = b ∧ rest = rest' := by
  obtain ⟨_, h⟩ := h
  obtain ⟨_, h'⟩ := h'
  cases h.symm.trans h'
  exact ⟨rfl, rfl⟩

end Text

namespace Json

/-! ### Separators -/

section Separators

variable {s r e : List Char}

theorem afterSpace_eq (h : skipSpace s = r) : ∃ hle, afterSpace s = ⟨r, hle⟩ := by
  subst h
  exact ⟨_, rfl⟩

theorem length_of_skipSpace (h : skipSpace s = r) : r.length ≤ s.length :=
  h ▸ length_skipSpace_le s

@[simp] theorem skipSpace_skipSpace (s : List Char) : skipSpace (skipSpace s) = skipSpace s :=
  List.dropWhile_idempotent _ s

@[simp] theorem reads_endList_iff : Reads endList s () e ↔ skipSpace s = ']' :: e := by
  constructor
  · rintro ⟨hlt, h⟩
    rw [endList] at h
    rcases hs : afterSpace s with ⟨_ | ⟨c, r⟩, hle⟩
    · rw [hs] at h
      cases h
    have hspace : skipSpace s = c :: r := congrArg Subtype.val hs
    rw [hs] at h
    dsimp only at h
    split at h
    next hc =>
      obtain rfl : r = e := congrArg Taken.rest (Except.ok.inj h)
      rw [hspace, hc]
    · split at h
      · split at h <;> cases h
      · cases h
  · intro h
    obtain ⟨hle, hafter⟩ := afterSpace_eq h
    refine ⟨hle, ?_⟩
    rw [endList, hafter]
    rfl

@[simp] theorem reads_endObject_iff : Reads endObject s () e ↔ skipSpace s = '}' :: e := by
  constructor
  · rintro ⟨hlt, h⟩
    rw [endObject] at h
    rcases hs : afterSpace s with ⟨_ | ⟨c, r⟩, hle⟩
    · rw [hs] at h
      cases h
    have hspace : skipSpace s = c :: r := congrArg Subtype.val hs
    rw [hs] at h
    dsimp only at h
    split at h
    next hc =>
      obtain rfl : r = e := congrArg Taken.rest (Except.ok.inj h)
      rw [hspace, hc]
    · split at h <;> cases h
  · intro h
    obtain ⟨hle, hafter⟩ := afterSpace_eq h
    refine ⟨hle, ?_⟩
    rw [endObject, hafter]
    rfl

/-- Where the next element of a list begins, if there is one. -/
inductive ItemAt (s : List Char) : Bool → Option (List Char) → Prop
  | close {first : Bool} {r : List Char} (hs : skipSpace s = ']' :: r) : ItemAt s first none
  | first {c : Char} {r : List Char} (hs : skipSpace s = c :: r) (hc : c ≠ ']') :
    ItemAt s true (some (c :: r))
  | later {c : Char} {r u : List Char} (hs : skipSpace s = ',' :: u) (hu : skipSpace u = c :: r)
      (hc : c ≠ ']') : ItemAt s false (some (c :: r))

theorem ItemAt.of_nextItem {first : Bool} {next : Option (Rest s)}
    (h : nextItem first s = .ok next) : ItemAt s first (next.map Subtype.val) := by
  rw [nextItem] at h
  rcases hs : afterSpace s with ⟨_ | ⟨c, r⟩, hle⟩
  · rw [hs] at h
    cases h
  have hspace : skipSpace s = c :: r := congrArg Subtype.val hs
  rw [hs] at h
  dsimp only at h
  split at h
  next hc =>
    cases h
    exact .close (hc ▸ hspace)
  next hc =>
    cases first with
    | true =>
      cases h
      exact .first hspace hc
    | false =>
      rw [if_neg Bool.false_ne_true] at h
      split at h
      next hcomma =>
        -- Behind the comma an item has to begin: a bracket there is a trailing comma.
        rcases hr : afterSpace r with ⟨_ | ⟨d, v⟩, hle'⟩
        · rw [hr] at h
          cases h
        have hitem : skipSpace r = d :: v := congrArg Subtype.val hr
        rw [hr] at h
        dsimp only at h
        split at h
        next hd => cases h
        next hd =>
          cases h
          exact .later (hcomma ▸ hspace) hitem hd
      next hcomma => cases h

/-- Where the next key of an object begins, behind its quote, if there is one. -/
inductive MemberAt (s : List Char) : Bool → Option (List Char) → Prop
  | close {first : Bool} {r : List Char} (hs : skipSpace s = '}' :: r) : MemberAt s first none
  | first {r : List Char} (hs : skipSpace s = '"' :: r) : MemberAt s true (some r)
  | later {r u : List Char} (hs : skipSpace s = ',' :: u) (hu : skipSpace u = '"' :: r) :
    MemberAt s false (some r)

theorem MemberAt.of_nextMember {first : Bool} {next : Option (Rest s)}
    (h : nextMember first s = .ok next) : MemberAt s first (next.map Subtype.val) := by
  rw [nextMember] at h
  rcases hs : afterSpace s with ⟨_ | ⟨c, r⟩, hle⟩
  · rw [hs] at h
    cases h
  have hspace : skipSpace s = c :: r := congrArg Subtype.val hs
  rw [hs] at h
  dsimp only at h
  split at h
  next hc =>
    cases h
    exact .close (hc ▸ hspace)
  next hc =>
    -- Something else than the closing brace: a key, behind a comma unless it is the first.
    cases first with
    | true =>
      rw [if_pos rfl] at h
      split at h
      next hquote =>
        cases h
        exact .first (hquote ▸ hspace)
      next hquote => cases h
    | false =>
      rw [if_neg Bool.false_ne_true] at h
      split at h
      next hcomma =>
        rcases hr : afterSpace r with ⟨_ | ⟨d, v⟩, hle'⟩
        · rw [hr] at h
          cases h
        have hkey : skipSpace r = d :: v := congrArg Subtype.val hr
        rw [hr] at h
        dsimp only at h
        split at h
        next hquote =>
          cases h
          exact .later (hcomma ▸ hspace) (hquote ▸ hkey)
        next hquote => split at h <;> cases h
      next hcomma => cases h

/-- There is no element behind the closing bracket, -/
theorem nextItem_of_close (first : Bool) (hs : skipSpace s = ']' :: r) :
    nextItem first s = .ok none := by
  obtain ⟨hle, hafter⟩ := afterSpace_eq hs
  rw [nextItem, hafter]
  exact if_pos rfl

/-- and no member, -/
theorem nextMember_of_close (first : Bool) (hs : skipSpace s = '}' :: r) :
    nextMember first s = .ok none := by
  obtain ⟨hle, hafter⟩ := afterSpace_eq hs
  rw [nextMember, hafter]
  exact if_pos rfl

/-- and the first member begins with its key. -/
theorem nextMember_of_quote (hs : skipSpace s = '"' :: r) :
    ∃ hle, nextMember true s = .ok (some ⟨r, hle⟩) := by
  obtain ⟨hle, hafter⟩ := afterSpace_eq hs
  refine ⟨Nat.le_of_succ_le hle, ?_⟩
  rw [nextMember, hafter]
  simp only [if_neg (show '"' ≠ '}' by decide), if_true]
  rfl

end Separators

/-! ### Lists and objects -/

section Values

variable {value : Reader (Fault SyntaxError) Json} {s w : List Char}

/-- The steps of reading the elements of a list. -/
theorem gathers_readItems_iff {first : Bool} {vs : List Json} :
    Gathers (readItems value first) s vs w ↔
      (nextItem first s = .ok none ∧ vs = [] ∧ w = s) ∨
      ∃ t v u vs', nextItem first s = .ok (some t) ∧ Reads value t.1 v u ∧
        Gathers (readItems value false) u vs' w ∧ vs = v :: vs' := by
  constructor
  · rintro ⟨hle, h⟩
    rw [readItems] at h
    split at h
    · cases h
    next hnext =>
      cases h
      exact .inl ⟨hnext, rfl, rfl⟩
    next t hnext =>
      split at h
      · cases h
      next v hvalue =>
        split at h
        · cases h
        next vs' r hmore =>
          cases h
          exact .inr ⟨t, v.value, v.rest, vs', hnext, ⟨v.shorter, hvalue⟩, ⟨r.2, hmore⟩, rfl⟩
  · rintro (⟨hnext, rfl, rfl⟩ | ⟨t, v, u, vs', hnext, ⟨hu, hvalue⟩, ⟨hw, hmore⟩, rfl⟩)
    · refine ⟨Nat.le_refl _, ?_⟩
      rw [readItems, hnext]
      rfl
    · refine ⟨Nat.le_trans hw (Nat.le_trans (Nat.le_of_lt hu) t.2), ?_⟩
      rw [readItems, hnext]
      simp only [hvalue, hmore]
      rfl

theorem gathers_readItems_nil_iff {first : Bool} :
    Gathers (readItems value first) s [] w ↔ nextItem first s = .ok none ∧ w = s := by
  rw [gathers_readItems_iff]
  simp

theorem gathers_readItems_cons_iff {first : Bool} {v : Json} {vs : List Json} :
    Gathers (readItems value first) s (v :: vs) w ↔
      ∃ t u, nextItem first s = .ok (some t) ∧ Reads value t.1 v u ∧
        Gathers (readItems value false) u vs w := by
  rw [gathers_readItems_iff]
  constructor
  · rintro (⟨-, ⟨⟩, -⟩ | ⟨t, _, u, _, hnext, hread, hmore, ⟨⟩⟩)
    exact ⟨t, u, hnext, hread, hmore⟩
  · rintro ⟨t, u, hnext, hread, hmore⟩
    exact .inr ⟨t, v, u, vs, hnext, hread, hmore, rfl⟩

/-- The steps of reading the members of an object. -/
theorem gathers_readMembers_iff {first : Bool} {ms : List (String × Json)} :
    Gathers (readMembers value first) s ms w ↔
      (nextMember first s = .ok none ∧ ms = [] ∧ w = s) ∨
      ∃ t k c r v u ms', nextMember first s = .ok (some t) ∧ Reads readText t.1 k c ∧
        Passes readColon c r ∧ Reads value r v u ∧ Gathers (readMembers value false) u ms' w ∧
        ms = (k, v) :: ms' := by
  constructor
  · rintro ⟨hle, h⟩
    rw [readMembers] at h
    split at h
    · cases h
    next hnext =>
      cases h
      exact .inl ⟨hnext, rfl, rfl⟩
    next t hnext =>
      split at h
      · cases h
      -- A member is its key, the colon and its value; the rest of the object follows.
      next k hkey =>
        split at h
        · cases h
        next r hcolon =>
          split at h
          · cases h
          next v hvalue =>
            split at h
            · cases h
            next ms' r' hmore =>
              cases h
              exact .inr ⟨t, k.value, k.rest, r.1, v.value, v.rest, ms', hnext,
                ⟨k.shorter, hkey⟩, ⟨r.2, hcolon⟩, ⟨v.shorter, hvalue⟩, ⟨r'.2, hmore⟩, rfl⟩
  · rintro (⟨hnext, rfl, rfl⟩ | ⟨t, k, c, r, v, u, ms', hnext, ⟨hc, hkey⟩, ⟨hr, hcolon⟩,
      ⟨hu, hvalue⟩, ⟨hw, hmore⟩, rfl⟩)
    · refine ⟨Nat.le_refl _, ?_⟩
      rw [readMembers, hnext]
      rfl
    · refine ⟨Nat.le_trans hw (Nat.le_trans (Nat.le_of_lt hu) (Nat.le_trans hr
        (Nat.le_trans (Nat.le_of_lt hc) t.2))), ?_⟩
      rw [readMembers, hnext]
      simp only [hkey, hcolon, hvalue, hmore]
      rfl

theorem gathers_readMembers_nil_iff {first : Bool} :
    Gathers (readMembers value first) s [] w ↔ nextMember first s = .ok none ∧ w = s := by
  rw [gathers_readMembers_iff]
  simp

theorem gathers_readMembers_cons_iff {first : Bool} {k : String} {v : Json}
    {ms : List (String × Json)} :
    Gathers (readMembers value first) s ((k, v) :: ms) w ↔
      ∃ t c r u, nextMember first s = .ok (some t) ∧ Reads readText t.1 k c ∧
        Passes readColon c r ∧ Reads value r v u ∧ Gathers (readMembers value false) u ms w := by
  rw [gathers_readMembers_iff]
  constructor
  · rintro (⟨-, ⟨⟩, -⟩ | ⟨t, _, c, r, _, u, _, hnext, hkey, hcolon, hread, hmore, ⟨⟩⟩)
    exact ⟨t, c, r, u, hnext, hkey, hcolon, hread, hmore⟩
  · rintro ⟨t, c, r, u, hnext, hkey, hcolon, hread, hmore⟩
    exact .inr ⟨t, k, c, r, v, u, ms, hnext, hkey, hcolon, hread, hmore, rfl⟩

end Values

end Json

end RealmRegistry
