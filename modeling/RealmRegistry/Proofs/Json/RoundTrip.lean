/-
A written JSON value reads back as itself, with the members of its objects in order.

`Plain` are the values that records are written as: they hold whole numbers of at most 64 bits and
no others.  Both forms of writing are read back, on one line and over several:

* `reads_value` — a value with anything behind it, if its brackets are not too deep;
* `parse_write` — a whole text, with blanks behind the value.
-/
import RealmRegistry.Json.Sorted
import RealmRegistry.Proofs.Json.Numeral

namespace RealmRegistry.Json

open RealmRegistry.Text

/-! ### Values that are written -/

mutual

/-- Without floating-point numbers, and with whole numbers that fit a word. -/
@[simp] def Plain : Json → Prop
  | null => True
  | flag _ => True
  | integer i => FitsWord i
  | float _ => False
  | text _ => True
  | list vs => PlainItems vs
  | object ms => PlainMembers ms

/-- The same for each element of a list. -/
@[simp] def PlainItems : List Json → Prop
  | [] => True
  | v :: r => Plain v ∧ PlainItems r

/-- The same for each member of an object. -/
@[simp] def PlainMembers : List (String × Json) → Prop
  | [] => True
  | (_, v) :: r => Plain v ∧ PlainMembers r

end

mutual

/-- The number of levels of brackets. -/
@[simp] def depth : Json → Nat
  | null => 0
  | flag _ => 0
  | integer _ => 0
  | float _ => 0
  | text _ => 0
  | list vs => itemsDepth vs + 1
  | object ms => membersDepth ms + 1

/-- The number of levels of brackets in the elements of a list. -/
@[simp] def itemsDepth : List Json → Nat
  | [] => 0
  | v :: r => max (depth v) (itemsDepth r)

/-- The number of levels of brackets in the members of an object. -/
@[simp] def membersDepth : List (String × Json) → Nat
  | [] => 0
  | (_, v) :: r => max (depth v) (membersDepth r)

end

@[simp] theorem plainItems_iff {vs : List Json} : PlainItems vs ↔ ∀ v ∈ vs, v.Plain := by
  induction vs with
  | nil => simp
  | cons v r ih => rw [PlainItems, ih, List.forall_mem_cons]

@[simp] theorem plainMembers_iff {ms : List (String × Json)} :
    PlainMembers ms ↔ ∀ m ∈ ms, m.2.Plain := by
  induction ms with
  | nil => simp
  | cons m r ih => rw [PlainMembers, ih, List.forall_mem_cons]

@[simp] theorem itemsDepth_le_iff {vs : List Json} {n : Nat} :
    itemsDepth vs ≤ n ↔ ∀ v ∈ vs, v.depth ≤ n := by
  induction vs with
  | nil => simp
  | cons v r ih => rw [itemsDepth, Nat.max_le, ih, List.forall_mem_cons]

@[simp] theorem membersDepth_le_iff {ms : List (String × Json)} {n : Nat} :
    membersDepth ms ≤ n ↔ ∀ m ∈ ms, m.2.depth ≤ n := by
  induction ms with
  | nil => simp
  | cons m r ih => rw [membersDepth, Nat.max_le, ih, List.forall_mem_cons]

/-- A written value begins with a character that is neither a blank nor a closing bracket, and only
null begins like null. -/
theorem write_cons (indent : Option Nat) {v : Json} (hv : v.Plain) :
    ∃ c r, write indent v = c :: r ∧ isSpace c = false ∧ c ≠ ']' ∧ (v ≠ null → c ≠ 'n') := by
  cases v with
  | null => exact ⟨'n', _, by rw [write], by decide, by decide, fun h => absurd rfl h⟩
  | flag b =>
    cases b with
    | true => exact ⟨'t', _, by rw [write], by decide, by decide, fun _ => by decide⟩
    | false => exact ⟨'f', _, by rw [write], by decide, by decide, fun _ => by decide⟩
  | integer i =>
    obtain ⟨c, r, heq, hc⟩ := toString_cons i
    refine ⟨c, r, by rw [write, heq], ?_, ?_, fun _ => ?_⟩
    -- neither a sign nor a digit is a blank, a bracket or a letter
    · rcases hc with rfl | hc
      · decide
      · refine Bool.eq_false_iff.2 fun hs => ?_
        simp only [isSpace, Bool.or_eq_true, beq_iff_eq] at hs
        rcases hs with ((rfl | rfl) | rfl) | rfl <;> exact absurd hc (by decide)
    all_goals
      rintro rfl
      rcases hc with hc | hc <;> exact absurd hc (by decide)
  | float x => exact absurd hv (by simp)
  | text s => exact ⟨'"', _, by rw [write]; rfl, by decide, by decide, fun _ => by decide⟩
  | list vs =>
    cases vs with
    | nil => exact ⟨'[', _, by rw [write], by decide, by decide, fun _ => by decide⟩
    | cons v r => exact ⟨'[', _, by rw [write]; rfl, by decide, by decide, fun _ => by decide⟩
  | object ms =>
    cases ms with
    | nil => exact ⟨'{', _, by rw [write], by decide, by decide, fun _ => by decide⟩
    | cons m r => exact ⟨'{', _, by rw [write]; rfl, by decide, by decide, fun _ => by decide⟩

/-- The elements of a list stand before nothing but blanks and the closing bracket. -/
theorem write_list (indent : Option Nat) (vs : List Json) :
    ∃ b, Blanks b ∧ ∀ rest, write indent (list vs) ++ rest =
      '[' :: (writeItems (indent.map (· + 1)) true vs ++ (b ++ ']' :: rest)) := by
  cases vs with
  | nil => exact ⟨[], blanks_nil, fun rest => by rw [write]; rfl⟩
  | cons v r =>
    refine ⟨lineBreak indent, blanks_lineBreak indent, fun rest => ?_⟩
    rw [write]
    simp only [List.cons_append, List.append_assoc, List.nil_append]

/-- The members of an object stand before nothing but blanks and the closing bracket. -/
theorem write_object (indent : Option Nat) (ms : List (String × Json)) :
    ∃ b, Blanks b ∧ ∀ rest, write indent (object ms) ++ rest =
      '{' :: (writeMembers (indent.map (· + 1)) true ms ++ (b ++ '}' :: rest)) := by
  cases ms with
  | nil => exact ⟨[], blanks_nil, fun rest => by rw [write]; rfl⟩
  | cons m r =>
    refine ⟨lineBreak indent, blanks_lineBreak indent, fun rest => ?_⟩
    rw [write]
    simp only [List.cons_append, List.append_assoc, List.nil_append]

/-! ### What follows an element -/

theorem endsNumber_blank {c : Char} (hc : isSpace c = true) (r : List Char) :
    EndsNumber (c :: r) := by
  simp only [isSpace, Bool.or_eq_true, beq_iff_eq] at hc
  rcases hc with ((rfl | rfl) | rfl) | rfl <;> exact endsNumber_cons (by decide)

theorem endsNumber_blanks {b : List Char} (hb : Blanks b) {rest : List Char}
    (h : EndsNumber rest) : EndsNumber (b ++ rest) := by
  cases b with
  | nil => exact h
  | cons c r => exact endsNumber_blank (hb c List.mem_cons_self) _

theorem endsNumber_items (inner : Option Nat) {b : List Char} (hb : Blanks b) (vs : List Json)
    (rest : List Char) : EndsNumber (writeItems inner false vs ++ (b ++ ']' :: rest)) := by
  cases vs with
  | nil =>
    rw [writeItems, List.nil_append]
    exact endsNumber_blanks hb (endsNumber_cons (by decide))
  | cons v r =>
    rw [writeItems]
    exact endsNumber_cons (by decide)

theorem endsNumber_members (inner : Option Nat) {b : List Char} (hb : Blanks b)
    (ms : List (String × Json)) (rest : List Char) :
    EndsNumber (writeMembers inner false ms ++ (b ++ '}' :: rest)) := by
  cases ms with
  | nil =>
    rw [writeMembers, List.nil_append]
    exact endsNumber_blanks hb (endsNumber_cons (by decide))
  | cons m r =>
    rw [writeMembers]
    exact endsNumber_cons (by decide)

/-! ### Reading a value from its first character -/

variable {listReader objectReader : Reader (Fault SyntaxError) Json}

/-- A value is read behind blanks once it is read from its first character. -/
theorem reads_with {b r rest : List Char} {c : Char} {v : Json} (hb : Blanks b)
    (hc : isSpace c = false)
    (h : ∃ h, readFrom listReader objectReader c r = .ok ⟨v, rest, h⟩) :
    Reads (readWith listReader objectReader) (b ++ c :: r) v rest := by
  obtain ⟨hlt, hfrom⟩ := h
  obtain ⟨hle, hafter⟩ := afterSpace_append hb hc r
  refine ⟨Nat.lt_of_lt_of_le hlt hle, ?_⟩
  rw [readWith, hafter]
  simp only [hfrom]
  rfl

theorem reads_name {α : Type} (a : α) (c : Char) (word rest : List Char) :
    ∃ h, readName a c word (word ++ rest) = .ok ⟨a, rest, h⟩ := by
  obtain ⟨h, heq⟩ := passes_word word rest
  refine ⟨Nat.lt_succ_of_le h, ?_⟩
  rw [readName, heq]
  rfl

theorem reads_null (rest : List Char) :
    ∃ h, readFrom listReader objectReader 'n' (['u', 'l', 'l'] ++ rest) = .ok ⟨null, rest, h⟩ :=
  reads_name null 'n' ['u', 'l', 'l'] rest

theorem reads_true (rest : List Char) :
    ∃ h, readFrom listReader objectReader 't' (['r', 'u', 'e'] ++ rest) =
      .ok ⟨flag true, rest, h⟩ :=
  reads_name (flag true) 't' ['r', 'u', 'e'] rest

theorem reads_false (rest : List Char) :
    ∃ h, readFrom listReader objectReader 'f' (['a', 'l', 's', 'e'] ++ rest) =
      .ok ⟨flag false, rest, h⟩ :=
  reads_name (flag false) 'f' ['a', 'l', 's', 'e'] rest

theorem reads_integer {i : Int} (hi : FitsWord i) {rest : List Char} (hr : EndsNumber rest)
    {c : Char} {r : List Char} (heq : (toString i).toList = c :: r)
    (hc : c = '-' ∨ c.isDigit = true) :
    ∃ h, readFrom listReader objectReader c (r ++ rest) = .ok ⟨integer i, rest, h⟩ := by
  have hnot (d : Char) (hd : d ≠ '-') (hdigit : d.isDigit = false) : c ≠ d := by
    rintro rfl
    rcases hc with hc | hc
    · exact hd hc
    · rw [hdigit] at hc
      exact Bool.false_ne_true hc
  have hread := reads_number hi hr
  rw [heq, List.cons_append] at hread
  obtain ⟨h, hnumber⟩ := hread
  refine ⟨h, ?_⟩
  rw [readFrom, if_neg (hnot 'n' (by decide) (by decide)),
    if_neg (hnot 't' (by decide) (by decide)), if_neg (hnot 'f' (by decide) (by decide)),
    if_neg (hnot '"' (by decide) (by decide)), if_neg (hnot '[' (by decide) (by decide)),
    if_neg (hnot '{' (by decide) (by decide)), if_pos hc, hnumber]
  rfl

theorem reads_string (s : String) (rest : List Char) :
    ∃ h, readFrom listReader objectReader '"' (s.toList.flatMap escapeChar ++ '"' :: rest) =
      .ok ⟨text s, rest, h⟩ := by
  obtain ⟨h, heq⟩ := reads_text s rest
  refine ⟨Nat.lt_succ_of_lt h, ?_⟩
  show (readText _).map (fun t => (t.map Json.text).behind '"') = _
  rw [heq]
  rfl

theorem reads_list {s b rest : List Char} {vs : List Json} {item : Reader (Fault SyntaxError) Json}
    (hb : Blanks b) (h : Gathers (readItems item true) s vs (b ++ ']' :: rest)) :
    ∃ h, readFrom (readList item) objectReader '[' s = .ok ⟨list vs, rest, h⟩ := by
  obtain ⟨hle, hitems⟩ := h
  obtain ⟨hlt, hend⟩ := reads_endList hb rest
  refine ⟨Nat.lt_succ_of_lt (Nat.lt_of_lt_of_le hlt hle), ?_⟩
  show (readList item s).map (Taken.behind '[') = _
  rw [readList, hitems]
  simp only [hend]
  rfl

theorem reads_object {s b rest : List Char} {ms : List (String × Json)}
    {value : Reader (Fault SyntaxError) Json}
    (hb : Blanks b) (h : Gathers (readMembers value true) s ms (b ++ '}' :: rest)) :
    ∃ h, readFrom listReader (readObject value) '{' s =
      .ok ⟨object (Dict.ofList ms).entries, rest, h⟩ := by
  obtain ⟨hle, hmembers⟩ := h
  obtain ⟨hlt, hend⟩ := reads_endObject hb rest
  refine ⟨Nat.lt_succ_of_lt (Nat.lt_of_lt_of_le hlt hle), ?_⟩
  show (readObject value s).map (Taken.behind '{') = _
  rw [readObject, hmembers]
  simp only [hend]
  rfl

/-! ### Values, elements and members -/

-- By induction on the value.  The number of brackets that may still be opened goes down with each
-- of them, and stays at least the depth of what is left.
mutual

/-- A written value is read back as far as it goes. -/
theorem reads_value (indent : Option Nat) :
    ∀ (v : Json) (d : Nat), v.Plain → v.depth ≤ d → ∀ {b rest : List Char}, Blanks b →
      EndsNumber rest → Reads (readValue d) (b ++ (write indent v ++ rest)) v.sorted rest
  | null, d, _, _, b, rest, hb, _ => by
    rw [write]
    cases d <;> exact reads_with hb (by decide) (reads_null rest)
  | flag true, d, _, _, b, rest, hb, _ => by
    rw [write]
    cases d <;> exact reads_with hb (by decide) (reads_true rest)
  | flag false, d, _, _, b, rest, hb, _ => by
    rw [write]
    cases d <;> exact reads_with hb (by decide) (reads_false rest)
  | integer i, d, hv, _, b, rest, hb, hr => by
    obtain ⟨c, r, heq, hc⟩ := toString_cons i
    obtain ⟨c', r', heq', hspace, -⟩ := write_cons indent hv
    rw [write, heq] at heq'
    obtain ⟨rfl, rfl⟩ := List.cons.inj heq'
    rw [write, heq]
    cases d <;> exact reads_with hb hspace (reads_integer hv hr heq hc)
  | float x, d, hv, _, b, rest, _, _ => absurd hv (by simp)
  | text s, d, _, _, b, rest, hb, _ => by
    rw [write, quote_append]
    cases d <;> exact reads_with hb (by decide) (reads_string s rest)
  | list vs, 0, _, hd, b, rest, _, _ => absurd hd (by simp)
  | list vs, d + 1, hv, hd, b, rest, hb, _ => by
    obtain ⟨t, ht, hwrite⟩ := write_list indent vs
    rw [hwrite, sorted]
    exact reads_with hb (by decide) (reads_list ht
      (gathers_items (indent.map (· + 1)) ht vs d hv (by rw [depth] at hd; omega) true rest))
  | object ms, 0, _, hd, b, rest, _, _ => absurd hd (by simp)
  | object ms, d + 1, hv, hd, b, rest, hb, _ => by
    obtain ⟨t, ht, hwrite⟩ := write_object indent ms
    rw [hwrite, sorted]
    exact reads_with hb (by decide) (reads_object ht
      (gathers_members (indent.map (· + 1)) ht ms d hv (by rw [depth] at hd; omega) true rest))

/-- The written elements of a list are read back up to its closing bracket. -/
theorem gathers_items (inner : Option Nat) {b : List Char} (hb : Blanks b) :
    ∀ (vs : List Json) (d : Nat), PlainItems vs → itemsDepth vs ≤ d → ∀ (first : Bool)
      (rest : List Char), Gathers (readItems (readValue d) first)
        (writeItems inner first vs ++ (b ++ ']' :: rest)) (sortedItems vs) (b ++ ']' :: rest)
  | [], d, _, _, first, rest => by
    rw [writeItems, List.nil_append, sortedItems]
    refine ⟨Nat.le_refl _, ?_⟩
    rw [readItems, nextItem_close first hb rest]
    rfl
  | v :: r, d, hv, hd, first, rest => by
    rw [PlainItems] at hv
    rw [itemsDepth] at hd
    obtain ⟨c, t, hwrite, hspace, hne, -⟩ := write_cons inner hv.1
    obtain ⟨hle, hmore⟩ := gathers_items inner hb r d hv.2 (by omega) false rest
    -- a comma or the end of the list is behind the element, so a number ends there
    have hitem := reads_value inner v d hv.1 (by omega) blanks_nil
      (endsNumber_items inner hb r rest)
    rw [hwrite, List.nil_append, List.cons_append] at hitem
    obtain ⟨hlt, hitem⟩ := hitem
    rw [writeItems, hwrite, sortedItems]
    simp only [List.append_assoc, List.cons_append]
    obtain ⟨hn, hnext⟩ := nextItem_lead inner first hspace hne
      (t ++ (writeItems inner false r ++ (b ++ ']' :: rest)))
    refine ⟨Nat.le_trans hle (Nat.le_trans (Nat.le_of_lt hlt) hn), ?_⟩
    rw [readItems, hnext]
    simp only [hitem, hmore]
    rfl

/-- The written members of an object are read back up to its closing bracket. -/
theorem gathers_members (inner : Option Nat) {b : List Char} (hb : Blanks b) :
    ∀ (ms : List (String × Json)) (d : Nat), PlainMembers ms → membersDepth ms ≤ d →
      ∀ (first : Bool) (rest : List Char), Gathers (readMembers (readValue d) first)
        (writeMembers inner first ms ++ (b ++ '}' :: rest)) (sortedMembers ms) (b ++ '}' :: rest)
  | [], d, _, _, first, rest => by
    rw [writeMembers, List.nil_append, sortedMembers]
    refine ⟨Nat.le_refl _, ?_⟩
    rw [readMembers, nextMember_close first hb rest]
    rfl
  | (k, v) :: r, d, hv, hd, first, rest => by
    rw [PlainMembers] at hv
    rw [membersDepth] at hd
    obtain ⟨hle, hmore⟩ := gathers_members inner hb r d hv.2 (by omega) false rest
    obtain ⟨hlt, hvalue⟩ := reads_value inner v d hv.1 (by omega) (blanks_gap inner)
      (endsNumber_members inner hb r rest)
    obtain ⟨hc, hcolon⟩ := passes_colon inner
      (write inner v ++ (writeMembers inner false r ++ (b ++ '}' :: rest)))
    obtain ⟨hk, hkey⟩ := reads_text k (colon inner ++
      (write inner v ++ (writeMembers inner false r ++ (b ++ '}' :: rest))))
    rw [writeMembers, sortedMembers]
    simp only [List.append_assoc, quote_append, List.cons_append]
    obtain ⟨hn, hnext⟩ := nextMember_lead inner first (k.toList.flatMap escapeChar ++ '"' ::
      (colon inner ++ (write inner v ++ (writeMembers inner false r ++ (b ++ '}' :: rest)))))
    refine ⟨Nat.le_trans hle (Nat.le_trans (Nat.le_of_lt hlt) (Nat.le_trans hc
      (Nat.le_trans (Nat.le_of_lt hk) hn))), ?_⟩
    rw [readMembers, hnext]
    simp only [hkey, hcolon, hvalue, hmore]
    rfl

end

/-! ### Texts -/

theorem readEnd_blanks {b : List Char} (hb : Blanks b) : readEnd b = .ok () := by
  rw [readEnd, skipSpace_blanks hb]

/-- A written value is read back, whatever blanks are behind it. -/
theorem parse_write (indent : Option Nat) {v : Json} (hv : v.Plain) (hd : v.depth ≤ maxDepth)
    {b : List Char} (hb : Blanks b) : parse (write indent v ++ b) = .ok v.sorted := by
  have hends := endsNumber_blanks hb endsNumber_nil
  rw [List.append_nil] at hends
  have hread := reads_value indent v maxDepth hv hd blanks_nil hends
  rw [List.nil_append] at hread
  obtain ⟨h, heq⟩ := hread
  rw [parse, heq]
  show (do readEnd b; return v.sorted) = _
  rw [readEnd_blanks hb]
  rfl

end RealmRegistry.Json
