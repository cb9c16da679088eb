/-
The members of an object as they stand in its text.

What is read of a text has the members of each object in the order of their keys, and one for each
key.  `members?` has those of the outermost object in the order of the text, repeated keys and all:

* `parse_eq_object_iff` — which members are left of them;
* `members?_write` — nothing is added to the members of an object that is written.
-/
import RealmRegistry.Proofs.Json.Sorted
import RealmRegistry.Proofs.Schema.Document

namespace RealmRegistry.Json

open RealmRegistry.Text

/-- Reads the members of an object after its opening bracket. -/
def readAllMembers (value : Reader (Fault SyntaxError) Json) :
    Reader (Fault SyntaxError) (List (String × Json)) := fun s =>
  match readMembers value true s with
  | .error e => .error e
  | .ok (ms, ⟨r, h⟩) => (endObject r).map fun t => (t.map fun _ => ms).within h

/-- Reads a value within the outermost object of a text. -/
def readInner : Reader (Fault SyntaxError) Json := readValue (maxDepth - 1)

/-- The members of the object that a text is, in the order of the text. -/
def members? (s : List Char) : Option (List (String × Json)) :=
  match skipSpace s with
  | '{' :: r =>
    match readAllMembers readInner r with
    | .error _ => none
    | .ok t =>
      match readEnd t.rest with
      | .error _ => none
      | .ok () => some t.value
  | _ => none

/-! ### What is read of them -/

section Objects

variable {s : List Char} {listReader objectReader value : Reader (Fault SyntaxError) Json}

theorem readObject_eq (value : Reader (Fault SyntaxError) Json) (s : List Char) :
    readObject value s =
      (readAllMembers value s).map (Taken.map fun ms => object (Dict.ofList ms).entries) := by
  rw [readObject, readAllMembers]
  rcases readMembers value true s with e | ⟨ms, r, h⟩
  · rfl
  · dsimp only
    cases endObject r <;> rfl

theorem readList_ne_object {t : Taken Json s} (h : readList value s = .ok t)
    (es : List (String × Json)) : t.value ≠ object es := by
  rw [readList] at h
  split at h
  · cases h
  · obtain ⟨u, -, rfl⟩ := map_eq_ok.1 h
    exact Json.noConfusion

/-- An object begins with its bracket. -/
theorem readFrom_object {c : Char} {r : List Char} {t : Taken Json (c :: r)}
    {es : List (String × Json)} (h : readFrom (readList value) objectReader c r = .ok t)
    (ht : t.value = object es) : c = '{' ∧ ∃ u, objectReader r = .ok u ∧ t = u.behind c := by
  have hname {v : Json} {word : List Char} (hv : v ≠ object es) :
      readName v c word r ≠ .ok t := by
    intro h
    obtain ⟨u, -, rfl⟩ := map_eq_ok.1 h
    exact hv ht
  rw [readFrom] at h
  split at h
  · exact absurd h (hname Json.noConfusion)
  split at h
  · exact absurd h (hname Json.noConfusion)
  split at h
  · exact absurd h (hname Json.noConfusion)
  split at h
  · obtain ⟨u, -, rfl⟩ := map_eq_ok.1 h
    cases ht
  split at h
  · obtain ⟨u, hlist, rfl⟩ := map_eq_ok.1 h
    exact absurd ht (readList_ne_object hlist es)
  split at h
  next hc =>
    obtain ⟨u, hobject, rfl⟩ := map_eq_ok.1 h
    exact ⟨hc, u, hobject, rfl⟩
  split at h
  · obtain ⟨⟨number, _, _⟩, -, rfl⟩ := map_eq_ok.1 h
    cases number <;> cases ht
  · cases h

theorem readWith_eq_ok {t : Taken Json s} :
    readWith listReader objectReader s = .ok t ↔ ∃ c r u, skipSpace s = c :: r ∧
      readFrom listReader objectReader c r = .ok u ∧ u.value = t.value ∧ u.rest = t.rest := by
  rcases hafter : afterSpace s with ⟨_ | ⟨c, r⟩, hle⟩
  · have hskip : skipSpace s = [] := congrArg Subtype.val hafter
    rw [readWith, hafter, hskip]
    constructor
    · intro h
      cases h
    · rintro ⟨c, r, u, hnil, -⟩
      cases hnil
  · have hskip : skipSpace s = c :: r := congrArg Subtype.val hafter
    rw [readWith, hafter, hskip]
    constructor
    · intro h
      obtain ⟨u, hread, rfl⟩ := map_eq_ok.1 h
      exact ⟨c, r, u, rfl, hread, rfl, rfl⟩
    · rintro ⟨_, _, u, ⟨⟩, hread, hvalue, hrest⟩
      refine map_eq_ok.2 ⟨u, hread, ?_⟩
      obtain ⟨v, rest, hlt⟩ := t
      cases hvalue
      cases hrest
      rfl

theorem parse_eq_ok {v : Json} :
    parse s = .ok v ↔ ∃ t, readValue maxDepth s = .ok t ∧ readEnd t.rest = .ok () ∧
      t.value = v := by
  rw [parse, bind_eq_ok]
  refine exists_congr fun t => and_congr_right fun _ => bind_eq_ok.trans ?_
  constructor
  · rintro ⟨⟨⟩, hend, hv⟩
    exact ⟨hend, Except.ok.inj hv⟩
  · rintro ⟨hend, rfl⟩
    exact ⟨(), hend, rfl⟩

theorem members?_eq_some {ms : List (String × Json)} :
    members? s = some ms ↔ ∃ r t, skipSpace s = '{' :: r ∧ readAllMembers readInner r = .ok t ∧
      readEnd t.rest = .ok () ∧ t.value = ms := by
  rw [members?]
  constructor
  · intro h
    split at h
    next r hskip =>
      split at h
      · cases h
      next t hread =>
        split at h
        · cases h
        next hend => exact ⟨r, t, hskip, hread, hend, Option.some.inj h⟩
    · cases h
  · rintro ⟨r, t, hskip, hread, hend, rfl⟩
    simp only [hskip, hread, hend]

/-- Of the members of a text that is an object the last one of each key is read. -/
theorem parse_eq_object_iff {es : List (String × Json)} :
    parse s = .ok (object es) ↔ ∃ ms, members? s = some ms ∧ (Dict.ofList ms).entries = es := by
  have hdepth : readValue maxDepth = readWith (readList readInner) (readObject readInner) := rfl
  simp only [members?_eq_some, parse_eq_ok, hdepth]
  constructor
  · rintro ⟨t, hread, hend, hvalue⟩
    obtain ⟨c, r, u, hskip, hfrom, hsame, hrest⟩ := readWith_eq_ok.1 hread
    obtain ⟨rfl, w, hobject, rfl⟩ := readFrom_object hfrom (hsame.trans hvalue)
    rw [readObject_eq] at hobject
    obtain ⟨m, hmembers, rfl⟩ := map_eq_ok.1 hobject
    exact ⟨m.value, ⟨r, m, hskip, hmembers, hrest ▸ hend, rfl⟩,
      Json.object.inj (hsame.trans hvalue)⟩
  · rintro ⟨_, ⟨r, m, hskip, hmembers, hend, rfl⟩, rfl⟩
    have hobject : readObject readInner r =
        .ok (m.map fun ms => object (Dict.ofList ms).entries) := by
      rw [readObject_eq, hmembers]
      rfl
    have hle := length_skipSpace_le s
    rw [hskip] at hle
    refine ⟨((m.map fun ms => object (Dict.ofList ms).entries).behind '{').within hle,
      readWith_eq_ok.2 ⟨'{', r, _, hskip, ?_, rfl, rfl⟩, hend, rfl⟩
    show (readObject readInner r).map (Taken.behind '{') = _
    rw [hobject]
    rfl

end Objects

/-! ### What is written -/

/-- The members of a written object stand in its text as they were given. -/
theorem members?_write (indent : Option Nat) {ms : List (String × Json)} (hv : (object ms).Plain)
    (hd : (object ms).depth ≤ maxDepth) {b : List Char} (hb : Blanks b) :
    members? (write indent (object ms) ++ b) = some (ms.map fun m => (m.1, m.2.sorted)) := by
  obtain ⟨before, hbefore, hwrite⟩ := write_object indent ms
  have hinner : membersDepth ms ≤ maxDepth - 1 := Nat.le_sub_one_of_lt hd
  obtain ⟨hle, hmembers⟩ := gathers_members (indent.map (· + 1)) hbefore ms (maxDepth - 1) hv hinner
    true b
  obtain ⟨hlt, hend⟩ := reads_endObject hbefore b
  rw [← sortedMembers_eq_map, hwrite, members?_eq_some]
  refine ⟨_, ⟨sortedMembers ms, b, Nat.lt_of_lt_of_le hlt hle⟩, skipSpace_cons (by decide) _, ?_,
    readEnd_blanks hb, rfl⟩
  rw [readAllMembers, readInner, hmembers]
  simp only [hend]
  rfl

end RealmRegistry.Json
