/-
Outlines of JSON texts.

An outline is the value of a text with the members of its objects as they stand there, repeated keys
and all.  Whatever can be passed over has one: what cannot be read because a number is too large, an
escape makes no character or too many brackets are open, stands for a number that no text has.

* `readOutline`, `outline?` — the outline of a value, and of a whole text;
* `reads_readOpen_iff` — the kind of a value is told by its first character;
* `exists_reads_outline_iff` — there is an outline of whatever can be passed over.
-/
import RealmRegistry.Proofs.Json.Skip

namespace RealmRegistry.Json

open RealmRegistry.Text

/-! ### Outlines -/

/-- What stands for a value that can only be passed over. -/
def unread : Json := .float (.notANumber false)

/-- Passes over a value. -/
def passOver : Reader (Fault SyntaxError) Json := Reader.map (fun _ => unread) skipValue

/-- Reads a value given a reader for what is in its brackets; no member of an object is dropped or
moved. -/
def readOpen (value : Reader (Fault SyntaxError) Json) : Reader (Fault SyntaxError) Json :=
  readWith (readList value) (Reader.map .object (readAllMembers value))

/-- Reads the outline of a value; brackets that are deeper are not opened. -/
def readOutline : (depth : Nat) → Reader (Fault SyntaxError) Json
  | 0 => passOver
  | depth + 1 => fun s =>
    match readOpen (readOutline depth) s with
    | .ok t => .ok t
    | .error _ => passOver s

/-- The outline of a whole text. -/
def outline? (s : List Char) : Option Json :=
  match readOutline maxDepth s with
  | .error _ => none
  | .ok t =>
    match readEnd t.rest with
    | .error _ => none
    | .ok () => some t.value

theorem outline?_eq_some_iff {s : List Char} {v : Json} :
    outline? s = some v ↔
      ∃ rest, Reads (readOutline maxDepth) s v rest ∧ readEnd rest = .ok () := by
  rw [outline?]
  constructor
  · intro h
    split at h
    · cases h
    next t hread =>
      split at h
      · cases h
      next hend =>
        cases h
        exact ⟨t.rest, ⟨t.shorter, hread⟩, hend⟩
  · rintro ⟨rest, ⟨hlt, hread⟩, hend⟩
    simp only [hread, hend]

/-! ### First characters -/

variable {value : Reader (Fault SyntaxError) Json} {c : Char} {s r w rest : List Char} {v : Json}

/-- The value that a character begins, and what is behind it. -/
inductive Leads (value : Reader (Fault SyntaxError) Json) :
    Char → List Char → Json → List Char → Prop
  | null {r rest : List Char} (h : Passes (readWord ['u', 'l', 'l']) r rest) :
    Leads value 'n' r .null rest
  | yes {r rest : List Char} (h : Passes (readWord ['r', 'u', 'e']) r rest) :
    Leads value 't' r (.flag true) rest
  | no {r rest : List Char} (h : Passes (readWord ['a', 'l', 's', 'e']) r rest) :
    Leads value 'f' r (.flag false) rest
  | text {r rest : List Char} {t : String} (h : Reads readText r t rest) :
    Leads value '"' r (.text t) rest
  | list {r w rest : List Char} {vs : List Json} (h : Gathers (readItems value true) r vs w)
    (hend : Reads endList w () rest) : Leads value '[' r (.list vs) rest
  | object {r w rest : List Char} {ms : List (String × Json)}
    (h : Gathers (readMembers value true) r ms w) (hend : Reads endObject w () rest) :
    Leads value '{' r (.object ms) rest
  | number {c : Char} {r rest : List Char} {n : Number} (hc : c = '-' ∨ c.isDigit)
    (h : Reads readNumber (c :: r) n rest) : Leads value c r (ofNumber n) rest

/-! ### Kinds of values -/

theorem Leads.of_null (h : Leads value c r .null rest) :
    c = 'n' ∧ Passes (readWord ['u', 'l', 'l']) r rest := by
  generalize hv : Json.null = v at h
  cases h with
  | null h => exact ⟨rfl, h⟩
  | @number c r rest n hc h => cases n <;> cases hv
  | _ => cases hv

theorem Leads.of_flag {b : Bool} (h : Leads value c r (.flag b) rest) :
    (c = 't' ∧ Passes (readWord ['r', 'u', 'e']) r rest ∧ b = true) ∨
      (c = 'f' ∧ Passes (readWord ['a', 'l', 's', 'e']) r rest ∧ b = false) := by
  generalize hv : Json.flag b = v at h
  cases h with
  | yes h =>
    cases hv
    exact .inl ⟨rfl, h, rfl⟩
  | no h =>
    cases hv
    exact .inr ⟨rfl, h, rfl⟩
  | @number c r rest n hc h => cases n <;> cases hv
  | _ => cases hv

theorem Leads.of_integer {i : Int} (h : Leads value c r (.integer i) rest) :
    (c = '-' ∨ c.isDigit) ∧ Reads readNumber (c :: r) (.integer i) rest := by
  generalize hv : Json.integer i = v at h
  cases h with
  | @number c r rest n hc h =>
    cases n with
    | integer j =>
      cases hv
      exact ⟨hc, h⟩
    | float x => cases hv
  | _ => cases hv

theorem Leads.of_text {t : String} (h : Leads value c r (.text t) rest) :
    c = '"' ∧ Reads readText r t rest := by
  generalize hv : Json.text t = v at h
  cases h with
  | text h =>
    cases hv
    exact ⟨rfl, h⟩
  | @number c r rest n hc h => cases n <;> cases hv
  | _ => cases hv

theorem Leads.of_list {vs : List Json} (h : Leads value c r (.list vs) rest) :
    c = '[' ∧ ∃ w, Gathers (readItems value true) r vs w ∧ Reads endList w () rest := by
  generalize hv : Json.list vs = v at h
  cases h with
  | list h hend =>
    cases hv
    exact ⟨rfl, _, h, hend⟩
  | @number c r rest n hc h => cases n <;> cases hv
  | _ => cases hv

theorem Leads.of_object {ms : List (String × Json)} (h : Leads value c r (.object ms) rest) :
    c = '{' ∧ ∃ w, Gathers (readMembers value true) r ms w ∧ Reads endObject w () rest := by
  generalize hv : Json.object ms = v at h
  cases h with
  | object h hend =>
    cases hv
    exact ⟨rfl, _, h, hend⟩
  | @number c r rest n hc h => cases n <;> cases hv
  | _ => cases hv

/-! ### Lists, objects and first characters -/

theorem reads_readList_iff :
    Reads (readList value) r v rest ↔
      ∃ vs w, Gathers (readItems value true) r vs w ∧ Reads endList w () rest ∧ v = .list vs := by
  constructor
  · rintro ⟨hlt, h⟩
    rw [readList] at h
    split at h
    · cases h
    next vs w hw hitems =>
      obtain ⟨t, hend, heq⟩ := map_eq_ok.1 h
      cases heq
      exact ⟨vs, w, ⟨hw, hitems⟩, ⟨t.shorter, hend⟩, rfl⟩
  · rintro ⟨vs, w, ⟨hw, hitems⟩, ⟨hlt, hend⟩, rfl⟩
    refine ⟨Nat.lt_of_lt_of_le hlt hw, ?_⟩
    rw [readList, hitems]
    simp only [hend]
    rfl

theorem reads_readAllMembers_iff {ms : List (String × Json)} :
    Reads (readAllMembers value) r ms rest ↔
      ∃ w, Gathers (readMembers value true) r ms w ∧ Reads endObject w () rest := by
  constructor
  · rintro ⟨hlt, h⟩
    rw [readAllMembers] at h
    split at h
    · cases h
    next ms w hw hmembers =>
      obtain ⟨t, hend, heq⟩ := map_eq_ok.1 h
      cases heq
      exact ⟨w, ⟨hw, hmembers⟩, ⟨t.shorter, hend⟩⟩
  · rintro ⟨w, ⟨hw, hmembers⟩, ⟨hlt, hend⟩⟩
    refine ⟨Nat.lt_of_lt_of_le hlt hw, ?_⟩
    rw [readAllMembers, hmembers]
    simp only [hend]
    rfl

/-- A number begins with a sign or a digit, and nothing else does. -/
theorem ne_of_begins_number {d : Char} (hc : c = '-' ∨ c.isDigit = true)
    (hd : d ≠ '-' ∧ d.isDigit = false) : c ≠ d := by
  rintro rfl
  rcases hc with hc | hc
  · exact hd.1 hc
  · rw [hd.2] at hc
    cases hc

theorem leads_of_readFrom {t : Taken Json (c :: r)}
    (h : readFrom (readList value) (Reader.map .object (readAllMembers value)) c r = .ok t) :
    Leads value c r t.value t.rest := by
  -- The cases stand in the order in which the reader tries the first character.
  rw [readFrom] at h
  split at h
  next hc =>
    subst hc
    obtain ⟨u, hword, rfl⟩ := map_eq_ok.1 h
    exact .null ⟨u.2, hword⟩
  split at h
  next hc =>
    subst hc
    obtain ⟨u, hword, rfl⟩ := map_eq_ok.1 h
    exact .yes ⟨u.2, hword⟩
  split at h
  next hc =>
    subst hc
    obtain ⟨u, hword, rfl⟩ := map_eq_ok.1 h
    exact .no ⟨u.2, hword⟩
  split at h
  next hc =>
    subst hc
    obtain ⟨u, htext, rfl⟩ := map_eq_ok.1 h
    exact .text ⟨u.shorter, htext⟩
  split at h
  next hc =>
    subst hc
    obtain ⟨u, hlist, rfl⟩ := map_eq_ok.1 h
    obtain ⟨vs, w, hitems, hend, hvalue⟩ := reads_readList_iff.1 ⟨u.shorter, hlist⟩
    rw [show (u.behind '[').value = .list vs from hvalue]
    exact .list hitems hend
  split at h
  next hc =>
    subst hc
    obtain ⟨u, hobject, rfl⟩ := map_eq_ok.1 h
    obtain ⟨ms, hms, hvalue⟩ := reads_map_iff.1 ⟨u.shorter, hobject⟩
    obtain ⟨w, hmembers, hend⟩ := reads_readAllMembers_iff.1 hms
    rw [show (u.behind '{').value = .object ms from hvalue.symm]
    exact .object hmembers hend
  split at h
  next hc =>
    obtain ⟨u, hnumber, rfl⟩ := map_eq_ok.1 h
    exact .number hc ⟨u.shorter, hnumber⟩
  · cases h

theorem Leads.readFrom (h : Leads value c r v rest) :
    ∃ hlt, Json.readFrom (readList value) (Reader.map .object (readAllMembers value)) c r =
      .ok ⟨v, rest, hlt⟩ := by
  cases h with
  | null h =>
    obtain ⟨hle, hword⟩ := h
    refine ⟨Nat.lt_succ_of_le hle, ?_⟩
    rw [Json.readFrom, if_pos rfl, readName, hword]
    rfl
  | yes h =>
    obtain ⟨hle, hword⟩ := h
    refine ⟨Nat.lt_succ_of_le hle, ?_⟩
    rw [Json.readFrom, if_neg (by decide), if_pos rfl, readName, hword]
    rfl
  | no h =>
    obtain ⟨hle, hword⟩ := h
    refine ⟨Nat.lt_succ_of_le hle, ?_⟩
    rw [Json.readFrom, if_neg (by decide), if_neg (by decide), if_pos rfl, readName, hword]
    rfl
  | text h =>
    obtain ⟨hlt, htext⟩ := h
    refine ⟨Nat.lt_succ_of_lt hlt, ?_⟩
    rw [Json.readFrom, if_neg (by decide), if_neg (by decide), if_neg (by decide), if_pos rfl,
      htext]
    rfl
  | list h hend =>
    obtain ⟨hlt, hlist⟩ := reads_readList_iff.2 ⟨_, _, h, hend, rfl⟩
    refine ⟨Nat.lt_succ_of_lt hlt, ?_⟩
    rw [Json.readFrom, if_neg (by decide), if_neg (by decide), if_neg (by decide),
      if_neg (by decide), if_pos rfl, hlist]
    rfl
  | object h hend =>
    obtain ⟨hlt, hobject⟩ := (reads_readAllMembers_iff.2 ⟨_, h, hend⟩).map Json.object
    refine ⟨Nat.lt_succ_of_lt hlt, ?_⟩
    rw [Json.readFrom, if_neg (by decide), if_neg (by decide), if_neg (by decide),
      if_neg (by decide), if_neg (by decide), if_pos rfl, hobject]
    rfl
  | number hc h =>
    obtain ⟨hlt, hnumber⟩ := h
    have hne (d : Char) (hd : d ≠ '-' ∧ d.isDigit = false) := ne_of_begins_number hc hd
    refine ⟨hlt, ?_⟩
    rw [Json.readFrom, if_neg (hne 'n' (by decide)), if_neg (hne 't' (by decide)),
      if_neg (hne 'f' (by decide)), if_neg (hne '"' (by decide)), if_neg (hne '[' (by decide)),
      if_neg (hne '{' (by decide)), if_pos hc, hnumber]
    rfl

theorem reads_readOpen_iff :
    Reads (readOpen value) s v rest ↔ ∃ c r, skipSpace s = c :: r ∧ Leads value c r v rest := by
  constructor
  · rintro ⟨hlt, h⟩
    obtain ⟨c, r, u, hs, hfrom, hvalue, hrest⟩ := readWith_eq_ok.1 h
    obtain rfl : u.value = v := hvalue
    obtain rfl : u.rest = rest := hrest
    exact ⟨c, r, hs, leads_of_readFrom hfrom⟩
  · rintro ⟨c, r, hs, hleads⟩
    obtain ⟨hlt, hfrom⟩ := hleads.readFrom
    have hle := length_of_skipSpace hs
    exact ⟨Nat.lt_of_lt_of_le hlt hle, readWith_eq_ok.2 ⟨c, r, _, hs, hfrom, rfl, rfl⟩⟩

/-! ### Passing over -/

/-- A value is passed over if it can be read and what is in its brackets can be passed over. -/
theorem Leads.passedIn (hvalue : Skippable value) (hs : skipSpace s = c :: r)
    (h : Leads value c r v rest) : Reads skipValue s () rest := by
  -- Only a bracket leaves something to be passed later; any other value is passed at once.
  have scalar (hc : Bracket.ofChar? c = none)
      (hscalar : ∃ h, skipScalar c r = .ok ⟨(), rest, h⟩) : Reads skipValue s () rest :=
    PassedIn.reads (.scalar hs hc hscalar passes_skipRestIn_nil)
  cases h with
  | null h =>
    obtain ⟨hle, hword⟩ := h
    refine scalar rfl ⟨Nat.lt_succ_of_le hle, ?_⟩
    rw [skipScalar, if_pos rfl, readName, hword]
    rfl
  | yes h =>
    obtain ⟨hle, hword⟩ := h
    refine scalar rfl ⟨Nat.lt_succ_of_le hle, ?_⟩
    rw [skipScalar, if_neg (by decide), if_pos rfl, readName, hword]
    rfl
  | no h =>
    obtain ⟨hle, hword⟩ := h
    refine scalar rfl ⟨Nat.lt_succ_of_le hle, ?_⟩
    rw [skipScalar, if_neg (by decide), if_neg (by decide), if_pos rfl, readName, hword]
    rfl
  | text h =>
    obtain ⟨hlt, hskip⟩ := reads_skipChars_of_text h
    refine scalar rfl ⟨Nat.lt_succ_of_lt hlt, ?_⟩
    rw [skipScalar, if_neg (by decide), if_neg (by decide), if_neg (by decide), if_pos rfl, hskip]
    rfl
  | list h hend => exact reads_skipValue_list hvalue hs h hend
  | object h hend => exact reads_skipValue_object hvalue hs h hend
  | number hc h =>
    -- A number is the last case tried, so its first character is none of those before it.
    obtain ⟨hlt, hskip⟩ := reads_skipNumber_of_number h
    have hne (d : Char) (hd : d ≠ '-' ∧ d.isDigit = false) := ne_of_begins_number hc hd
    refine scalar ?_ ⟨hlt, ?_⟩
    · rw [Bracket.ofChar?.eq_def]
      split
      · exact absurd rfl (hne '[' (by decide))
      · exact absurd rfl (hne '{' (by decide))
      · rfl
    · rw [skipScalar, if_neg (hne 'n' (by decide)), if_neg (hne 't' (by decide)),
        if_neg (hne 'f' (by decide)), if_neg (hne '"' (by decide)), if_pos hc, hskip]

theorem reads_passOver_iff :
    Reads passOver s v rest ↔ Reads skipValue s () rest ∧ v = unread := by
  rw [passOver, reads_map_iff]
  constructor
  · rintro ⟨_, h, rfl⟩
    exact ⟨h, rfl⟩
  · rintro ⟨h, rfl⟩
    exact ⟨(), h, rfl⟩

section Outline

variable {depth : Nat}

theorem reads_outline_of_open (h : Reads (readOpen (readOutline depth)) s v rest) :
    Reads (readOutline (depth + 1)) s v rest := by
  obtain ⟨hlt, h⟩ := h
  refine ⟨hlt, ?_⟩
  rw [readOutline]
  dsimp only
  rw [h]

/-- A value is read with its brackets opened, or only passed over. -/
theorem reads_open_or_passOver (h : Reads (readOutline (depth + 1)) s v rest) :
    Reads (readOpen (readOutline depth)) s v rest ∨ Reads passOver s v rest := by
  obtain ⟨hlt, h⟩ := h
  rw [readOutline] at h
  dsimp only at h
  split at h
  next t hopen =>
    cases h
    exact .inl ⟨hlt, hopen⟩
  next => exact .inr ⟨hlt, h⟩

theorem skippable_readOutline : ∀ depth, Skippable (readOutline depth)
  | 0 => fun _ _ _ h => (reads_passOver_iff.1 h).1
  | depth + 1 => by
    intro s v rest h
    rcases reads_open_or_passOver h with hopen | hpass
    · obtain ⟨c, r, hs, hleads⟩ := reads_readOpen_iff.1 hopen
      exact hleads.passedIn (skippable_readOutline depth) hs
    · exact (reads_passOver_iff.1 hpass).1

/-- There is an outline of a value if and only if the value can be passed over. -/
theorem exists_reads_outline_iff :
    (∃ v, Reads (readOutline depth) s v rest) ↔ Reads skipValue s () rest := by
  constructor
  · rintro ⟨v, h⟩
    exact skippable_readOutline depth h
  · intro h
    have hpass : Reads passOver s unread rest := reads_passOver_iff.2 ⟨h, rfl⟩
    cases depth with
    | zero => exact ⟨unread, hpass⟩
    | succ depth =>
      cases hopen : readOpen (readOutline depth) s with
      | ok t =>
        -- what is read is passed over, so the same is left
        have hread := reads_outline_of_open ⟨t.shorter, hopen⟩
        obtain ⟨-, hrest⟩ := (skippable_readOutline (depth + 1) hread).eq h
        exact ⟨t.value, hrest ▸ hread⟩
      | error e =>
        obtain ⟨hlt, hpass⟩ := hpass
        refine ⟨unread, hlt, ?_⟩
        rw [readOutline]
        dsimp only
        rw [hopen]
        exact hpass

end Outline

end RealmRegistry.Json
