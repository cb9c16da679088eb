/-
Reading back a value that is written on a line.

Of such values there are truth values, whole numbers, strings and lists of these.  What follows one
is the end of the line, a comma or a closing bracket (`EndsValue`), so neither a word nor a string
goes on there.  A whole number is a run of digits, which is no date and no time.

* `ofWord?_digits` — the word of a whole number;
* `scans_value` — a value that brackets do not nest too deep in.
-/
import RealmRegistry.Proofs.Json.Numeral
import RealmRegistry.Proofs.Toml.Text
import RealmRegistry.Toml.Parser
import RealmRegistry.Toml.Printer

namespace RealmRegistry.Toml

open RealmRegistry.Text
open RealmRegistry.Json (digit_of_mem_toDigits toDigits_cases toList_toString_nonnegative)

/-- What follows a value on its line. -/
def EndsValue (rest : List Char) : Prop :=
  ∃ c r, rest = c :: r ∧ (c = '\n' ∨ c = ',' ∨ c = ']')

theorem EndsValue.endsText {rest : List Char} (h : EndsValue rest) : EndsText rest := by
  obtain ⟨c, r, rfl, rfl | rfl | rfl⟩ := h <;> exact ⟨by simp, by simp⟩

/-! ### Words -/

/-- Characters of a kind, up to one of another kind. -/
theorem takeWhile_run {p : Char → Bool} {w : List Char} (hw : ∀ c ∈ w, p c = true) {e : Char}
    (he : p e = false) (r : List Char) : (w ++ e :: r).takeWhile p = w := by
  rw [List.takeWhile_append_of_pos hw, List.takeWhile_cons_of_neg (by simp [he]), List.append_nil]

theorem dropWhile_run {p : Char → Bool} {w : List Char} (hw : ∀ c ∈ w, p c = true) {e : Char}
    (he : p e = false) (r : List Char) : ∃ h, Rest.dropWhile p (w ++ e :: r) = ⟨e :: r, h⟩ := by
  refine ⟨by rw [List.length_append]; omega, Subtype.ext ?_⟩
  show (w ++ e :: r).dropWhile p = _
  rw [List.dropWhile_append_of_pos hw, List.dropWhile_cons_of_neg (by simp [he])]

/-- A word that is not followed by a blank is read as what it stands for. -/
theorem scans_word {word rest : List Char} {v : Toml} (hne : word ≠ [])
    (hword : ∀ c ∈ word, isWordChar c = true) (hrest : EndsValue rest)
    (hv : ofWord? word = some v) : Scans readWord (word ++ rest) v rest := by
  obtain ⟨e, r, rfl, he⟩ := hrest
  have hend : isWordChar e = false := by
    rcases he with rfl | rfl | rfl <;> decide
  have hblank : e ≠ ' ' := by
    rcases he with rfl | rfl | rfl <;> decide
  cases word with
  | nil => exact absurd rfl hne
  | cons c w =>
    have hw : ∀ d ∈ w, isWordChar d = true := fun d hd => hword d (List.mem_cons_of_mem c hd)
    obtain ⟨hle, hdrop⟩ := dropWhile_run hw hend r
    have hclock : clockBehind? (c :: w) (Rest.dropWhile isWordChar (w ++ e :: r)).1 = none := by
      rw [hdrop, clockBehind?]
      intro s h
      exact hblank (List.cons.inj h).1
    rw [List.cons_append]
    refine ⟨Nat.lt_succ_of_le hle, ?_⟩
    rw [readWord, if_pos (hword c List.mem_cons_self)]
    simp only [takeWhile_run hw hend r, hclock, hv, Option.map_some, hdrop]
    rfl

/-! ### Whole numbers -/

theorem code_of_isDigit {c : Char} (h : c.isDigit = true) : 48 ≤ c.toNat ∧ c.toNat ≤ 57 :=
  Char.isDigit_iff_toNat.1 h

theorem digitValue?_digit {c : Char} (h : c.isDigit = true) :
    digitValue? 10 c = some (c.toNat - 48) := by
  have hcode := code_of_isDigit h
  have hhex : hexValue? c = some (c.toNat - 48) := if_pos hcode
  rw [digitValue?, hhex]
  exact Option.filter_eq_some_iff.2 ⟨rfl, decide_eq_true (by omega)⟩

theorem digits?_digits {cs : List Char} (hne : cs ≠ []) (h : ∀ c ∈ cs, c.isDigit = true) :
    Word.digits? 10 cs = some (cs.map fun c => c.toNat - 48) := by
  induction cs with
  | nil => exact absurd rfl hne
  | cons c r ih =>
    rw [Word.digits?, digitValue?_digit (h c List.mem_cons_self)]
    cases r with
    | nil => rfl
    | cons d r =>
      have hr : ∀ e ∈ d :: r, e.isDigit = true := fun e he => h e (List.mem_cons_of_mem c he)
      have hd : d ≠ '_' := by
        rintro rfl
        exact absurd (hr '_' List.mem_cons_self) (by decide)
      simp only [ih (List.cons_ne_nil d r) hr]
      rfl

theorem foldl_digits (cs : List Char) (n : Nat) :
    (cs.map fun c => c.toNat - 48).foldl (fun n d => n * 10 + d) n =
      Nat.ofDigitChars 10 cs n := by
  induction cs generalizing n with
  | nil => exact Nat.ofDigitChars_nil.symm
  | cons c r ih =>
    rw [List.map_cons, List.foldl_cons, ih, Nat.ofDigitChars_cons, Nat.mul_comm 10 n]
    rfl

/-- The digits of a number, none of which is a zero in front of others. -/
theorem whole?_toDigits (n : Nat) :
    ∃ ds, Word.whole? (Nat.toDigits 10 n) = some ds ∧ ofDigits 10 ds = n := by
  obtain ⟨c, r, heq, hzero⟩ := toDigits_cases n
  have hdigit : ∀ d ∈ Nat.toDigits 10 n, d.isDigit = true := fun d hd => digit_of_mem_toDigits hd
  have hne : Nat.toDigits 10 n ≠ [] := by simp [heq]
  refine ⟨_, ?_, (foldl_digits _ 0).trans Nat.ofDigitChars_ten_toDigits⟩
  rw [Word.whole?, digits?_digits hne hdigit]
  split
  next d ds hds =>
    -- a first digit of no value is a zero, which stands alone
    rw [heq, List.map_cons] at hds
    obtain ⟨hc, hmore⟩ := List.cons.inj (Option.some.inj hds)
    have hcode := code_of_isDigit (hdigit c (by simp [heq]))
    have hc' : c = '0' := Char.toNat_inj.1 (by show c.toNat = 48; omega)
    rw [hzero hc'] at hmore
    cases hmore
  next => rfl

theorem number?_toDigits (n : Nat) : Word.number? (Nat.toDigits 10 n) = some (n : Int) := by
  obtain ⟨ds, hds, hn⟩ := whole?_toDigits n
  have hdigit : ∀ d ∈ Nat.toDigits 10 n, d.isDigit = true := fun d hd => digit_of_mem_toDigits hd
  have hne (c : Char) (hc : c.isDigit = false) (s : List Char) {t : List Char}
      (hs : c ∈ s) : Nat.toDigits 10 n ≠ s ++ t := by
    intro h
    have := hdigit c (h ▸ List.mem_append_left t hs)
    rw [hc] at this
    cases this
  have hsign : Word.sign (Nat.toDigits 10 n) = (false, Nat.toDigits 10 n) := by
    rw [Word.sign]
    · intro r h
      exact hne '+' rfl ['+'] List.mem_cons_self h
    · intro r h
      exact hne '-' rfl ['-'] List.mem_cons_self h
  rw [Word.number?]
  · simp only [hsign, hds, Option.map_some, hn]
    rfl
  · intro r h
    exact hne 'x' rfl ['0', 'x'] (by simp) h
  · intro r h
    exact hne 'o' rfl ['0', 'o'] (by simp) h
  · intro r h
    exact hne 'b' rfl ['0', 'b'] (by simp) h

/-- A date or time has other characters than digits. -/
theorem isMoment_digits {s : List Char} (h : ∀ c ∈ s, c.isDigit = true) :
    Word.isMoment s = false := by
  have hdate : Word.afterDate? s = none := by
    unfold Word.afterDate?
    split
    · exact absurd (h '-' (by simp)) (by decide)
    · rfl
  have htime : Word.afterTime? s = none := by
    have hminute : Word.afterMinute? s = none := by
      unfold Word.afterMinute?
      split
      · exact absurd (h ':' (by simp)) (by decide)
      · rfl
    rw [Word.afterTime?, hminute]
    rfl
  rw [Word.isMoment, hdate]
  simp only [htime]
  rfl

/-- The word of a whole number of 63 bits. -/
theorem ofWord?_digits {n : Nat} (hn : n < 0x8000000000000000) :
    ofWord? (Nat.toDigits 10 n) = some (.integer n) := by
  have hdigit : ∀ d ∈ Nat.toDigits 10 n, d.isDigit = true := fun d hd => digit_of_mem_toDigits hd
  have htrue : Nat.toDigits 10 n ≠ ['t', 'r', 'u', 'e'] := fun h =>
    absurd (hdigit 't' (by simp [h])) (by decide)
  have hfalse : Nat.toDigits 10 n ≠ ['f', 'a', 'l', 's', 'e'] := fun h =>
    absurd (hdigit 'f' (by simp [h])) (by decide)
  have hinteger : Word.integer? (Nat.toDigits 10 n) = some (n : Int) := by
    rw [Word.integer?, number?_toDigits]
    exact Option.filter_eq_some_iff.2 ⟨rfl, decide_eq_true (by omega)⟩
  rw [ofWord?, if_neg htrue, if_neg hfalse, isMoment_digits hdigit, if_neg Bool.false_ne_true,
    hinteger]

theorem isWordChar_of_isDigit {c : Char} (h : c.isDigit = true) : isWordChar c = true := by
  simp [isWordChar, Char.isAlphanum, h]

/-! ### Values on a line -/

mutual

/-- A value that is written on a line, with whole numbers of at most 63 bits. -/
@[simp] def Plain : Toml → Prop
  | .flag _ => True
  | .integer i => 0 ≤ i ∧ i < 0x8000000000000000
  | .text _ => True
  | .list items => PlainItems items
  | _ => False

/-- The same for each element of a list. -/
@[simp] def PlainItems : List Toml → Prop
  | [] => True
  | v :: r => Plain v ∧ PlainItems r

end

mutual

/-- The number of levels of lists and tables. -/
@[simp] def depth : Toml → Nat
  | .list items => itemsDepth items + 1
  | .table ms => membersDepth ms + 1
  | .tables elements => elementsDepth elements + 1
  | _ => 0

/-- The number of levels in the elements of a list. -/
@[simp] def itemsDepth : List Toml → Nat
  | [] => 0
  | v :: r => max (depth v) (itemsDepth r)

/-- The number of levels in the members of a table. -/
@[simp] def membersDepth : List (String × Toml) → Nat
  | [] => 0
  | (_, v) :: r => max (depth v) (membersDepth r)

/-- The number of levels in an array of tables. -/
@[simp] def elementsDepth : List (List (String × Toml)) → Nat
  | [] => 0
  | ms :: r => max (membersDepth ms) (elementsDepth r)

end

@[simp] theorem plainItems_iff {ts : List Toml} : PlainItems ts ↔ ∀ t ∈ ts, t.Plain := by
  induction ts with
  | nil => simp
  | cons t r ih => rw [PlainItems, ih, List.forall_mem_cons]

@[simp] theorem itemsDepth_le_iff {ts : List Toml} {n : Nat} :
    itemsDepth ts ≤ n ↔ ∀ t ∈ ts, t.depth ≤ n := by
  induction ts with
  | nil => simp
  | cons t r ih => rw [itemsDepth, Nat.max_le, ih, List.forall_mem_cons]

@[simp] theorem membersDepth_le_iff {ms : List (String × Toml)} {n : Nat} :
    membersDepth ms ≤ n ↔ ∀ m ∈ ms, m.2.depth ≤ n := by
  induction ms with
  | nil => simp
  | cons m r ih => rw [membersDepth, Nat.max_le, ih, List.forall_mem_cons]

@[simp] theorem elementsDepth_le_iff {elements : List (List (String × Toml))} {n : Nat} :
    elementsDepth elements ≤ n ↔ ∀ ms ∈ elements, membersDepth ms ≤ n := by
  induction elements with
  | nil => simp
  | cons ms r ih => rw [elementsDepth, Nat.max_le, ih, List.forall_mem_cons]

theorem scans_number {i : Int} (h : 0 ≤ i ∧ i < 0x8000000000000000) {rest : List Char}
    (hrest : EndsValue rest) : Scans readWord ((toString i).toList ++ rest) (.integer i) rest := by
  obtain ⟨n, rfl⟩ : ∃ n : Nat, i = n := ⟨i.toNat, by omega⟩
  rw [toList_toString_nonnegative]
  obtain ⟨c, r, heq, -⟩ := toDigits_cases n
  exact scans_word (by simp [heq])
    (fun d hd => isWordChar_of_isDigit (digit_of_mem_toDigits hd)) hrest (ofWord?_digits (by omega))

section With

variable {list table : Scan Toml} {s rest : List Char} {v : Toml} {c : Char}

theorem scans_with_text {t : String} (hc : c = '"' ∨ c = '\'')
    (h : Scans readText (c :: s) t rest) :
    Scans (readWith list table) (c :: s) (.text t) rest := by
  obtain ⟨hlt, heq⟩ := h
  refine ⟨hlt, ?_⟩
  rw [readWith, if_pos hc, heq]
  rfl

theorem scans_with_list (h : Scans list s v rest) :
    Scans (readWith list table) ('[' :: s) v rest := by
  obtain ⟨hlt, heq⟩ := h
  refine ⟨Nat.lt_succ_of_lt hlt, ?_⟩
  show (list s).map _ = _
  rw [heq]
  rfl

theorem scans_with_word (hc : isWordChar c = true) (h : Scans readWord (c :: s) v rest) :
    Scans (readWith list table) (c :: s) v rest := by
  obtain ⟨hlt, heq⟩ := h
  have hne {d : Char} (hd : isWordChar d = false) : c ≠ d := by
    rintro rfl
    rw [hc] at hd
    cases hd
  refine ⟨hlt, ?_⟩
  rw [readWith, if_neg (not_or.2 ⟨hne (by decide), hne (by decide)⟩), if_neg (hne (by decide)),
    if_neg (hne (by decide)), heq]

end With

/-! ### Between values -/

/-- A character with which something begins, after blanks and line breaks. -/
def Begins (c : Char) : Prop :=
  isSpace c = false ∧ c ≠ '#' ∧ c ≠ '\n' ∧ c ≠ '\r'

instance (c : Char) : Decidable (Begins c) := inferInstanceAs (Decidable (_ ∧ _ ∧ _ ∧ _))

theorem begins_of_isWordChar {c : Char} (h : isWordChar c = true) : Begins c := by
  have hne {d : Char} (hd : isWordChar d = false) : c ≠ d := by
    rintro rfl
    rw [h] at hd
    cases hd
  refine ⟨?_, hne (by decide), hne (by decide), hne (by decide)⟩
  rw [isSpace, Bool.or_eq_false_iff, beq_eq_false_iff_ne, beq_eq_false_iff_ne]
  exact ⟨hne (by decide), hne (by decide)⟩

theorem skipSpace_cons {c : Char} (hc : isSpace c = false) (r : List Char) :
    skipSpace (c :: r) = c :: r :=
  List.dropWhile_cons_of_neg (by simp [hc])

@[simp] theorem skipSpace_blank (r : List Char) : skipSpace (' ' :: r) = skipSpace r :=
  List.dropWhile_cons_of_pos rfl

/-- What is behind blanks is no comment. -/
theorem next_comment {s r : List Char} {c : Char} (hs : skipSpace s = c :: r) (hc : c ≠ '#') :
    ∃ h, (afterSpace s).next (skipComment (skipSpace s)) = ⟨c :: r, h⟩ := by
  have hval : (skipComment (skipSpace s)).1 = c :: r := by
    rw [hs, skipComment]
    · rfl
    · intro t h
      exact hc (List.cons.inj h).1
  exact ⟨hval ▸ ((afterSpace s).next (skipComment (skipSpace s))).2, Subtype.ext hval⟩

theorem skipFiller_of_begins {s r : List Char} {c : Char} (hs : skipSpace s = c :: r)
    (hc : Begins c) : ∃ h, skipFiller s = ⟨c :: r, h⟩ := by
  obtain ⟨h, hnext⟩ := next_comment hs hc.2.1
  refine ⟨h, ?_⟩
  rw [skipFiller, hnext]
  simp only [afterBreak?_none hc.2.2.1 hc.2.2.2]
  exact Subtype.ext hs

/-! ### Lists -/

theorem first?_self {s u : List Char} {c : Char} (h : (c :: u).length ≤ s.length) :
    Rest.first? (s := s) ⟨c :: u, h⟩ c = some ⟨(), u, h⟩ :=
  if_pos rfl

theorem first?_other {s u : List Char} {c d : Char} (h : (d :: u).length ≤ s.length)
    (hne : d ≠ c) : Rest.first? (s := s) ⟨d :: u, h⟩ c = none :=
  if_neg hne

section Elements

variable {item : Scan Toml} {s t u rest : List Char} {v : Toml} {vs : List Toml} {c : Char}

/-- What a list reader sees behind blanks and line breaks. -/
theorem seen_of_begins (item : Scan Toml) (hs : skipSpace s = c :: t) (hc : Begins c) :
    (∃ h, (skipFiller s).first? c = some ⟨(), t, h⟩) ∧
      (∀ d, c ≠ d → (skipFiller s).first? d = none) ∧
      ∀ {v r}, Scans item (c :: t) v r → ∃ h, item (skipFiller s).1 = some ⟨v, r, h⟩ := by
  obtain ⟨hle, hskip⟩ := skipFiller_of_begins hs hc
  rw [hskip]
  exact ⟨⟨hle, first?_self hle⟩, fun d hd => first?_other hle hd, fun h => h⟩

theorem scans_elements_nil (item : Scan Toml) (hs : skipSpace s = ']' :: rest) :
    Scans (readElements item) s [] rest := by
  obtain ⟨⟨hlt, hfirst⟩, -, -⟩ := seen_of_begins item hs (by decide)
  refine ⟨hlt, ?_⟩
  rw [readElements]
  simp only [hfirst]
  rfl

/-- The last element of a list stands before its closing bracket, -/
theorem scans_elements_last (hs : skipSpace s = c :: t) (hc : Begins c) (hne : c ≠ ']')
    (h : Scans item (c :: t) v (']' :: rest)) : Scans (readElements item) s [v] rest := by
  obtain ⟨-, hother, hitem⟩ := seen_of_begins item hs hc
  obtain ⟨hlt, heq⟩ := hitem h
  obtain ⟨⟨hlt', hclose⟩, -, -⟩ := seen_of_begins item
    (skipSpace_cons (c := ']') (by decide) rest) (by decide)
  refine ⟨Nat.lt_of_lt_of_le (Nat.lt_of_succ_lt hlt) (skipFiller s).2, ?_⟩
  rw [readElements]
  simp only [hother _ hne, heq, hclose]
  rfl

/-- and each other one before a comma. -/
theorem scans_elements_cons (hs : skipSpace s = c :: t) (hc : Begins c) (hne : c ≠ ']')
    (h : Scans item (c :: t) v (',' :: u)) (hmore : Scans (readElements item) u vs rest) :
    Scans (readElements item) s (v :: vs) rest := by
  obtain ⟨-, hother, hitem⟩ := seen_of_begins item hs hc
  obtain ⟨hlt, heq⟩ := hitem h
  obtain ⟨hlt₁, heq₁⟩ := hmore
  obtain ⟨⟨hlt', hcomma⟩, hother', -⟩ := seen_of_begins item
    (skipSpace_cons (c := ',') (by decide) u) (by decide)
  refine ⟨Nat.lt_of_lt_of_le (Nat.lt_trans (Nat.lt_succ_of_lt hlt₁) hlt) (skipFiller s).2, ?_⟩
  rw [readElements]
  simp only [hother _ hne, heq, hother' ']' (by decide), hcomma, heq₁]
  rfl

end Elements

/-! ### Values -/

theorem write_cons {v : Toml} (hv : v.Plain) :
    ∃ c r, write v = c :: r ∧ Begins c ∧ c ≠ ']' := by
  cases v with
  | flag b => cases b <;> exact ⟨_, _, by rw [write], by decide, by decide⟩
  | integer i =>
    obtain ⟨n, rfl⟩ : ∃ n : Nat, i = n := ⟨i.toNat, by have := hv.1; omega⟩
    obtain ⟨c, r, heq, -⟩ := toDigits_cases n
    have hc : c.isDigit = true := digit_of_mem_toDigits (n := n) (heq ▸ List.mem_cons_self)
    have hne : c ≠ ']' := by
      rintro rfl
      exact absurd hc (by decide)
    exact ⟨c, r, by rw [write, toList_toString_nonnegative, heq],
      begins_of_isWordChar (isWordChar_of_isDigit hc), hne⟩
  | text s =>
    obtain ⟨c, r, heq, hc⟩ := quote_cons s
    refine ⟨c, r, by rw [write, heq], ?_⟩
    rcases hc with rfl | rfl <;> exact ⟨by decide, by decide⟩
  | list items => exact ⟨'[', _, by rw [write]; rfl, by decide, by decide⟩
  | _ => exact absurd hv (by simp)

theorem writeItems_false (v : Toml) (r : List Toml) :
    writeItems false (v :: r) = ',' :: ' ' :: writeItems true (v :: r) := by
  simp [writeItems]

mutual

/-- A written value is read back, if brackets may nest as deep as they do. -/
theorem scans_value : ∀ (v : Toml) (d : Nat), v.Plain → v.depth ≤ d → ∀ {rest : List Char},
    EndsValue rest → Scans (readValue d) (write v ++ rest) v rest
  | .flag true, d, _, _, rest, hrest => by
    have hword : Scans readWord (['t', 'r', 'u', 'e'] ++ rest) (.flag true) rest :=
      scans_word (by simp) (List.all_eq_true.1 (by decide)) hrest rfl
    rw [write]
    cases d <;> exact scans_with_word (by decide) hword
  | .flag false, d, _, _, rest, hrest => by
    have hword : Scans readWord (['f', 'a', 'l', 's', 'e'] ++ rest) (.flag false) rest :=
      scans_word (by simp) (List.all_eq_true.1 (by decide)) hrest rfl
    rw [write]
    cases d <;> exact scans_with_word (by decide) hword
  | .integer i, d, hv, _, rest, hrest => by
    have hword := scans_number hv hrest
    obtain ⟨n, rfl⟩ : ∃ n : Nat, i = n := ⟨i.toNat, by have := hv.1; omega⟩
    obtain ⟨c, r, heq, -⟩ := toDigits_cases n
    have hc : c.isDigit = true := digit_of_mem_toDigits (n := n) (heq ▸ List.mem_cons_self)
    rw [toList_toString_nonnegative, heq] at hword
    rw [write, toList_toString_nonnegative, heq]
    cases d <;> exact scans_with_word (isWordChar_of_isDigit hc) hword
  | .text s, d, _, _, rest, hrest => by
    have htext := scans_quote hrest.endsText s
    obtain ⟨c, r, heq, hc⟩ := quote_cons s
    rw [heq] at htext
    rw [write, heq]
    cases d <;> exact scans_with_text hc htext
  | .list items, 0, _, hd, _, _ => absurd hd (by simp)
  | .list items, d + 1, hv, hd, rest, hrest => by
    have hitems := scans_items items d hv (by rw [depth] at hd; omega) []
      (fun c hc => absurd hc List.not_mem_nil) rest
    rw [write, List.cons_append, List.cons_append, List.append_assoc]
    refine scans_with_list ?_
    obtain ⟨hlt, heq⟩ := hitems
    refine ⟨hlt, ?_⟩
    show (readElements (readValue d) (writeItems true items ++ ']' :: rest)).map _ = _
    rw [show readElements (readValue d) (writeItems true items ++ ']' :: rest) = _ from heq]
    rfl

/-- The written elements of a list are read back up to its closing bracket. -/
theorem scans_items : ∀ (vs : List Toml) (d : Nat), PlainItems vs → itemsDepth vs ≤ d →
    ∀ (b : List Char), (∀ c ∈ b, isSpace c = true) → ∀ (rest : List Char),
    Scans (readElements (readValue d)) (b ++ (writeItems true vs ++ ']' :: rest)) vs rest
  | [], d, _, _, b, hb, rest => by
    refine scans_elements_nil _ ?_
    rw [skipSpace, List.dropWhile_append_of_pos hb]
    exact skipSpace_cons (by decide) rest
  | v :: r, d, hv, hd, b, hb, rest => by
    rw [PlainItems] at hv
    rw [itemsDepth] at hd
    obtain ⟨c, t, hwrite, hbegins, hne⟩ := write_cons hv.1
    have hskip (u : List Char) : skipSpace (b ++ (write v ++ u)) = c :: (t ++ u) := by
      rw [skipSpace, List.dropWhile_append_of_pos hb, hwrite]
      exact skipSpace_cons hbegins.1 (t ++ u)
    have hwritten : writeItems true (v :: r) = write v ++ writeItems false r := by
      simp [writeItems]
    rw [hwritten, List.append_assoc]
    cases r with
    | nil =>
      have hends : EndsValue (']' :: rest) := ⟨']', rest, rfl, .inr (.inr rfl)⟩
      have hitem := scans_value v d hv.1 (by omega) hends
      rw [hwrite] at hitem
      exact scans_elements_last (hskip _) hbegins hne hitem
    | cons v' r =>
      have hmore := scans_items (v' :: r) d hv.2 (by omega) [' '] (List.all_eq_true.1 (by decide)) rest
      have hends : EndsValue (',' :: ' ' :: (writeItems true (v' :: r) ++ ']' :: rest)) :=
        ⟨',', _, rfl, .inr (.inl rfl)⟩
      have hitem := scans_value v d hv.1 (by omega) hends
      rw [hwrite] at hitem
      rw [writeItems_false]
      exact scans_elements_cons (hskip _) hbegins hne hitem hmore

end

end RealmRegistry.Toml
