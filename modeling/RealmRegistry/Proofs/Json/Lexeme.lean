/-
Reading back what stands between the values of a written JSON text, and its strings.

Every statement has the text that follows as a variable, so that statements about parts of a text
put together to one about the whole (`Reads`).  What is behind a lexeme is left as it is:

* `reads_text` — a string between quotes, after the opening one;
* `nextItem_lead`, `nextMember_lead` — the separator before an element, with its line break;
* `passes_colon` — the colon after a key;
* `nextItem_close`, `nextMember_close`, `reads_endList`, `reads_endObject` — the closing bracket.
-/
import RealmRegistry.Json.Parser
import RealmRegistry.Proofs.Result

namespace RealmRegistry.Text

/-- A reader finds `a` at the front of `s` and leaves `rest`. -/
def Reads {ε α : Type} (r : Reader ε α) (s : List Char) (a : α) (rest : List Char) : Prop :=
  ∃ h, r s = .ok ⟨a, rest, h⟩

/-- What may pass over nothing leaves `rest` of `s`. -/
def Passes {ε : Type} (r : (s : List Char) → Except ε (Rest s)) (s rest : List Char) : Prop :=
  ∃ h, r s = .ok ⟨rest, h⟩

/-- What gathers several things at the front of `s` finds `a` and leaves `rest`. -/
def Gathers {ε α : Type} (r : (s : List Char) → Except ε (α × Rest s)) (s : List Char) (a : α)
    (rest : List Char) : Prop :=
  ∃ h, r s = .ok (a, ⟨rest, h⟩)

theorem Reads.map {ε α β : Type} {r : Reader ε α} {s rest : List Char} {a : α}
    (h : Reads r s a rest) (f : α → β) : Reads (r.map f) s (f a) rest := by
  obtain ⟨hlt, heq⟩ := h
  refine ⟨hlt, ?_⟩
  show (r s).map (Taken.map f) = _
  rw [heq]
  rfl

end RealmRegistry.Text

namespace RealmRegistry.Json

open RealmRegistry.Text

/-! ### Blanks -/

/-- Nothing but blanks. -/
def Blanks (s : List Char) : Prop := ∀ c ∈ s, isSpace c = true

theorem blanks_nil : Blanks [] := by
  intro c hc
  simp at hc

theorem blanks_newline : Blanks ['\n'] := by
  intro c hc
  rw [List.mem_singleton.1 hc]
  decide

theorem blanks_lineBreak (indent : Option Nat) : Blanks (lineBreak indent) := by
  intro c hc
  cases indent with
  | none => simp [lineBreak] at hc
  | some depth =>
    rcases List.mem_cons.1 hc with rfl | hc
    · decide
    · rw [List.eq_of_mem_replicate hc]
      decide

/-- The blanks between the colon after a key and the value. -/
def gap : Option Nat → List Char
  | none => []
  | some _ => [' ']

theorem blanks_gap (indent : Option Nat) : Blanks (gap indent) := by
  intro c hc
  cases indent with
  | none => simp [gap] at hc
  | some depth =>
    rw [List.mem_singleton.1 hc]
    decide

@[simp] theorem colon_eq (indent : Option Nat) : colon indent = ':' :: gap indent := by
  cases indent <;> rfl

theorem skipSpace_append {b : List Char} (hb : Blanks b) (s : List Char) :
    skipSpace (b ++ s) = skipSpace s :=
  List.dropWhile_append_of_pos hb

theorem skipSpace_cons {c : Char} (hc : isSpace c = false) (r : List Char) :
    skipSpace (c :: r) = c :: r :=
  List.dropWhile_cons_of_neg (by simp [hc])

theorem passes_word (word rest : List Char) : Passes (readWord word) (word ++ rest) rest := by
  induction word with
  | nil => exact ⟨Nat.le_refl _, rfl⟩
  | cons w word ih =>
    obtain ⟨h, heq⟩ := ih
    rw [List.cons_append]
    refine ⟨Nat.le_succ_of_le h, ?_⟩
    rw [readWord, if_pos rfl, heq]
    rfl

theorem skipSpace_blanks {b : List Char} (hb : Blanks b) : skipSpace b = [] := by
  have h := skipSpace_append hb []
  rwa [List.append_nil] at h

theorem afterSpace_append {b : List Char} (hb : Blanks b) {c : Char} (hc : isSpace c = false)
    (r : List Char) : ∃ h, afterSpace (b ++ c :: r) = ⟨c :: r, h⟩ := by
  have heq : skipSpace (b ++ c :: r) = c :: r := by
    rw [skipSpace_append hb, skipSpace_cons hc]
  refine ⟨?_, Subtype.ext heq⟩
  rw [List.length_append]
  omega

theorem afterSpace_cons {c : Char} (hc : isSpace c = false) (r : List Char) :
    ∃ h, afterSpace (c :: r) = ⟨c :: r, h⟩ :=
  afterSpace_append blanks_nil hc r

/-! ### Separators and brackets -/

variable {b : List Char} {c : Char}

theorem nextItem_close (first : Bool) (hb : Blanks b) (r : List Char) :
    nextItem first (b ++ ']' :: r) = .ok none := by
  obtain ⟨h, heq⟩ := afterSpace_append hb (c := ']') (by decide) r
  rw [nextItem, heq]
  rfl

/-- The first element stands behind a line break, a later one behind a comma and a line break. -/
theorem nextItem_lead (indent : Option Nat) (first : Bool) (hc : isSpace c = false)
    (hne : c ≠ ']') (r : List Char) :
    ∃ h, nextItem first (lead indent first ++ c :: r) = .ok (some ⟨c :: r, h⟩) := by
  cases first with
  | true =>
    obtain ⟨h, heq⟩ := afterSpace_append (blanks_lineBreak indent) hc r
    refine ⟨h, ?_⟩
    show nextItem true (lineBreak indent ++ c :: r) = _
    rw [nextItem, heq]
    simp only [if_neg hne, if_true]
    rfl
  | false =>
    -- the comma comes first, and the line break is behind it
    obtain ⟨h, heq⟩ := afterSpace_cons (c := ',') (by decide) (lineBreak indent ++ c :: r)
    obtain ⟨h', heq'⟩ := afterSpace_append (blanks_lineBreak indent) hc r
    refine ⟨Nat.le_trans h' (Nat.le_succ _), ?_⟩
    show nextItem false (',' :: (lineBreak indent ++ c :: r)) = _
    rw [nextItem, heq]
    simp only [heq', if_neg hne]
    rfl

theorem reads_endList (hb : Blanks b) (r : List Char) : Reads endList (b ++ ']' :: r) () r := by
  obtain ⟨h, heq⟩ := afterSpace_append hb (c := ']') (by decide) r
  refine ⟨h, ?_⟩
  rw [endList, heq]
  rfl

theorem nextMember_close (first : Bool) (hb : Blanks b) (r : List Char) :
    nextMember first (b ++ '}' :: r) = .ok none := by
  obtain ⟨h, heq⟩ := afterSpace_append hb (c := '}') (by decide) r
  rw [nextMember, heq]
  rfl

/-- A key opens with its quote, which is read with the separator. -/
theorem nextMember_lead (indent : Option Nat) (first : Bool) (r : List Char) :
    ∃ h, nextMember first (lead indent first ++ '"' :: r) = .ok (some ⟨r, h⟩) := by
  have hq : isSpace '"' = false := by decide
  cases first with
  | true =>
    obtain ⟨h, heq⟩ := afterSpace_append (blanks_lineBreak indent) hq r
    refine ⟨Nat.le_trans (Nat.le_succ _) h, ?_⟩
    show nextMember true (lineBreak indent ++ '"' :: r) = _
    rw [nextMember, heq]
    rfl
  | false =>
    obtain ⟨h, heq⟩ := afterSpace_cons (c := ',') (by decide) (lineBreak indent ++ '"' :: r)
    obtain ⟨h', heq'⟩ := afterSpace_append (blanks_lineBreak indent) hq r
    refine ⟨Nat.le_trans (Nat.le_succ _) (Nat.le_trans h' (Nat.le_succ _)), ?_⟩
    show nextMember false (',' :: (lineBreak indent ++ '"' :: r)) = _
    rw [nextMember, heq]
    simp only [heq']
    rfl

theorem passes_colon (indent : Option Nat) (r : List Char) :
    Passes readColon (colon indent ++ r) (gap indent ++ r) := by
  obtain ⟨h, heq⟩ := afterSpace_cons (c := ':') (by decide) (gap indent ++ r)
  rw [colon_eq, List.cons_append]
  refine ⟨Nat.le_succ _, ?_⟩
  rw [readColon, heq]
  rfl

theorem reads_endObject (hb : Blanks b) (r : List Char) :
    Reads endObject (b ++ '}' :: r) () r := by
  obtain ⟨h, heq⟩ := afterSpace_append hb (c := '}') (by decide) r
  refine ⟨h, ?_⟩
  rw [endObject, heq]
  rfl

/-! ### Strings -/

theorem reads_escape_letter {d : Char} (h : letterEscape? d = some c) (t : List Char) :
    Reads escape (d :: t) c t := by
  refine ⟨Nat.lt_succ_self _, ?_⟩
  rw [escape, h]
  rfl

/-- The escape of a character below the blank, by its number. -/
theorem reads_escape_hex {n : Nat} (hn : n < 32) (t : List Char) :
    ∃ digits, hexEscape n = '\\' :: digits ∧ Reads escape (digits ++ t) (Char.ofNat n) t := by
  -- there are few of them, so their digits are read one by one
  have hdigits : ∀ m < 32,
      hexValue4? '0' '0' ((hexEscape m).getD 4 ' ') ((hexEscape m).getD 5 ' ') = some m := by
    decide
  -- none of them is half of a pair
  have htrailing : isTrailing n = false := by
    simp only [isTrailing, Bool.and_eq_false_iff, decide_eq_false_iff_not]
    omega
  have hleading : isLeading n = false := by
    simp only [isLeading, Bool.and_eq_false_iff, decide_eq_false_iff_not]
    omega
  refine ⟨(hexEscape n).tail, rfl, ?_, ?_⟩
  · simp only [hexEscape, List.tail_cons, List.length_append, List.length_cons]
    omega
  · show escape ('u' :: '0' :: '0' :: (hexEscape n).getD 4 ' ' :: (hexEscape n).getD 5 ' ' :: t) = _
    rw [escape, show letterEscape? 'u' = none from rfl]
    simp only [readUnit, readHex4, hdigits n hn]
    simp only [ok_bind, Taken.behind, Taken.within, Taken.first, Taken.upTo, htrailing, hleading]
    rfl

/-- What is read after the backslash of an escape is put before the characters behind it. -/
theorem reads_chars_escape {s t cs rest : List Char} (he : Reads escape s c t)
    (h : Reads readChars t cs rest) : Reads readChars ('\\' :: s) (c :: cs) rest := by
  obtain ⟨hs, he⟩ := he
  obtain ⟨ht, h⟩ := h
  refine ⟨by simp only [List.length_cons]; omega, ?_⟩
  rw [readChars, if_neg (by decide), if_pos rfl, he]
  simp only [h]
  rfl

/-- One written character is read as the character. -/
theorem reads_escapeChar {t cs rest : List Char} (h : Reads readChars t cs rest) (c : Char) :
    Reads readChars (escapeChar c ++ t) (c :: cs) rest := by
  have letter (d : Char) (hd : letterEscape? d = some c) :
      Reads readChars ('\\' :: d :: t) (c :: cs) rest :=
    reads_chars_escape (reads_escape_letter hd t) h
  have number {n : Nat} (hn : c.toNat = n) : c = Char.ofNat n := by
    rw [← hn, Char.ofNat_toNat]
  rw [escapeChar]
  split
  next hc => exact letter '"' (by rw [hc]; rfl)
  split
  next hc => exact letter '\\' (by rw [hc]; rfl)
  split
  next hc => exact letter 'b' (by rw [number hc]; rfl)
  split
  next hc => exact letter 't' (by rw [hc]; rfl)
  split
  next hc => exact letter 'n' (by rw [hc]; rfl)
  split
  next hc => exact letter 'f' (by rw [number hc]; rfl)
  split
  next hc => exact letter 'r' (by rw [hc]; rfl)
  split
  next hc =>
    obtain ⟨digits, heq, hread⟩ := reads_escape_hex hc t
    rw [Char.ofNat_toNat] at hread
    rw [heq, List.cons_append]
    exact reads_chars_escape hread h
  -- any other character is written as it is
  next hquote hslash _ _ _ _ _ hc =>
    obtain ⟨ht, h⟩ := h
    rw [List.cons_append, List.nil_append]
    refine ⟨Nat.lt_succ_of_lt ht, ?_⟩
    rw [readChars, if_neg hquote, if_neg hslash, if_neg hc, h]
    rfl

theorem reads_chars (s rest : List Char) :
    Reads readChars (s.flatMap escapeChar ++ '"' :: rest) s rest := by
  induction s with
  | nil =>
    rw [List.flatMap_nil, List.nil_append]
    refine ⟨Nat.lt_succ_self _, ?_⟩
    rw [readChars, if_pos rfl]
    rfl
  | cons c r ih =>
    rw [List.flatMap_cons, List.append_assoc]
    exact reads_escapeChar ih c

theorem quote_append (s : String) (rest : List Char) :
    quote s ++ rest = '"' :: (s.toList.flatMap escapeChar ++ '"' :: rest) := by
  simp [quote]

/-- A written string is read back after its opening quote. -/
theorem reads_text (s : String) (rest : List Char) :
    Reads readText (s.toList.flatMap escapeChar ++ '"' :: rest) s rest := by
  have h := (reads_chars s.toList rest).map String.ofList
  rwa [String.ofList_toList] at h

end RealmRegistry.Json
