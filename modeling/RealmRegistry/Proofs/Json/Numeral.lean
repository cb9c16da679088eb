/-
Reading back a written whole number.

A whole number is written without leading zeros, so its first digit says whether it is zero
(`readWhole`), and its digits are gathered without loss while the number fits 64 bits:

* `reads_digits` — the digits of a number, as far as they go;
* `reads_number` — a whole number between `-2⁶³` and `2⁶⁴` reads back as itself, provided
  that what follows does not go on with it (`EndsNumber`).
-/
import RealmRegistry.Proofs.Json.Lexeme

namespace RealmRegistry.Json

open RealmRegistry.Text

/-- What follows a number does not go on with it. -/
def EndsNumber (rest : List Char) : Prop :=
  ∀ c ∈ rest.head?, c.isDigit = false ∧ c ≠ '.' ∧ c ≠ 'e' ∧ c ≠ 'E'

theorem endsNumber_nil : EndsNumber [] := by
  intro c hc
  simp at hc

theorem endsNumber_cons {c : Char} {r : List Char}
    (h : c.isDigit = false ∧ c ≠ '.' ∧ c ≠ 'e' ∧ c ≠ 'E') : EndsNumber (c :: r) := by
  intro d hd
  rw [List.head?_cons, Option.mem_some_iff] at hd
  exact hd ▸ h

/-! ### Digits -/

theorem digit_of_mem_toDigits {n : Nat} {c : Char} (h : c ∈ Nat.toDigits 10 n) :
    c.isDigit = true :=
  Nat.isDigit_of_mem_toDigits (by decide) (by decide) h

/-- The digits of a number are those of a zero, or they do not begin with one. -/
theorem toDigits_cases (n : Nat) :
    ∃ c r, Nat.toDigits 10 n = c :: r ∧ (c = '0' → r = []) := by
  induction n using Nat.strongRecOn with
  | ind n ih =>
    rw [Nat.toDigits_eq_if (by decide)]
    by_cases hn : n < 10
    · rw [if_pos hn]
      exact ⟨n.digitChar, [], rfl, fun _ => rfl⟩
    · rw [if_neg hn]
      obtain ⟨c, r, heq, hzero⟩ := ih (n / 10) (by omega)
      refine ⟨c, r ++ [(n % 10).digitChar], by rw [heq, List.cons_append], fun hc => ?_⟩
      -- a leading zero would be all of `n / 10`, which is not zero
      have hval : Nat.ofDigitChars 10 (Nat.toDigits 10 (n / 10)) 0 = n / 10 :=
        Nat.ofDigitChars_ten_toDigits
      rw [heq, hzero hc, hc, show Nat.ofDigitChars 10 ['0'] 0 = 0 from rfl] at hval
      omega

theorem takeWhile_digits {ds rest : List Char} (hds : ∀ c ∈ ds, c.isDigit = true)
    (hr : EndsNumber rest) : (ds ++ rest).takeWhile Char.isDigit = ds := by
  rw [List.takeWhile_append_of_pos hds]
  cases rest with
  | nil => simp
  | cons c r => rw [List.takeWhile_cons_of_neg (by simp [(hr c rfl).1]), List.append_nil]

theorem dropWhile_digits {ds rest : List Char} (hds : ∀ c ∈ ds, c.isDigit = true)
    (hr : EndsNumber rest) : (ds ++ rest).dropWhile Char.isDigit = rest := by
  rw [List.dropWhile_append_of_pos hds]
  cases rest with
  | nil => rfl
  | cons c r => exact List.dropWhile_cons_of_neg (by simp [(hr c rfl).1])

theorem readDigits_append {ds rest : List Char} (hds : ∀ c ∈ ds, c.isDigit = true)
    (hr : EndsNumber rest) :
    ∃ h, readDigits (ds ++ rest) = (ds.map digitValue, ⟨rest, h⟩) := by
  refine ⟨by rw [List.length_append]; omega, ?_⟩
  rw [readDigits, takeWhile_digits hds hr]
  exact congrArg _ (Subtype.ext (dropWhile_digits hds hr))

/-- The digits of a number are read as far as they go. -/
theorem reads_digits (n : Nat) {rest : List Char} (hr : EndsNumber rest) :
    Reads readWhole (Nat.toDigits 10 n ++ rest) ((Nat.toDigits 10 n).map digitValue) rest := by
  obtain ⟨c, r, heq, hzero⟩ := toDigits_cases n
  have hdigit : ∀ d ∈ c :: r, d.isDigit = true := by
    intro d hd
    exact digit_of_mem_toDigits (heq ▸ hd)
  rw [heq, List.cons_append]
  by_cases hc : c = '0'
  · -- a leading zero is the whole number, and no digit may follow it
    rw [hzero hc, List.nil_append, hc]
    refine ⟨Nat.lt_succ_self _, ?_⟩
    cases rest with
    | nil => rfl
    | cons d r' =>
      show (if d.isDigit then _ else _) = _
      rw [(hr d rfl).1]
      rfl
  · -- behind another digit all digits are taken
    obtain ⟨h, hds⟩ := readDigits_append (fun d hd => hdigit d (List.mem_cons_of_mem _ hd)) hr
    refine ⟨Nat.lt_succ_of_le h, ?_⟩
    rw [readWhole.eq_def]
    simp only [if_neg hc, if_pos (hdigit c List.mem_cons_self), hds]
    rfl

/-! ### The parts of a number -/

theorem readFraction_none {rest : List Char} (hr : EndsNumber rest) :
    readFraction rest = .ok ([], .all rest) := by
  cases rest with
  | nil => rfl
  | cons c r =>
    rw [readFraction.eq_3]
    · intro h
      exact (hr c rfl).2.1 (List.cons.inj h).1
    · intro d r' h
      exact (hr c rfl).2.1 (List.cons.inj h).1

theorem readExponent_none {rest : List Char} (hr : EndsNumber rest) :
    readExponent rest = .ok (none, .all rest) := by
  cases rest with
  | nil => rfl
  | cons c r =>
    rw [readExponent, if_neg (not_or.2 ⟨(hr c rfl).2.2.1, (hr c rfl).2.2.2⟩)]

/-- The numeral of a whole number. -/
def wholeNumeral (negative : Bool) (n : Nat) : Numeral :=
  ⟨negative, (Nat.toDigits 10 n).map digitValue, [], none⟩

theorem reads_unsigned (negative : Bool) (n : Nat) {rest : List Char} (hr : EndsNumber rest) :
    Reads (readUnsigned negative) (Nat.toDigits 10 n ++ rest) (wholeNumeral negative n) rest := by
  obtain ⟨h, heq⟩ := reads_digits n hr
  refine ⟨h, ?_⟩
  simp only [readUnsigned, heq, ok_bind, readFraction_none hr, Rest.all, readExponent_none hr]
  rfl

/-! ### Gathering digits -/

theorem le_ofDigitChars (cs : List Char) (n : Nat) : n ≤ Nat.ofDigitChars 10 cs n := by
  induction cs generalizing n with
  | nil => exact Nat.le_of_eq Nat.ofDigitChars_nil.symm
  | cons c r ih =>
    rw [Nat.ofDigitChars_cons]
    exact Nat.le_trans (by omega) (ih _)

theorem gather_digits (cs : List Char) (n : Nat)
    (h : Nat.ofDigitChars 10 cs n < 0x10000000000000000) :
    gather n (cs.map digitValue) = (Nat.ofDigitChars 10 cs n, []) := by
  induction cs generalizing n with
  | nil => rw [List.map_nil, gather, Nat.ofDigitChars_nil]
  | cons c r ih =>
    have hstep : n * 10 + digitValue c = 10 * n + (c.toNat - '0'.toNat) := by
      rw [digitValue, Nat.mul_comm]
      rfl
    -- what is gathered so far is at most the number, so it fits as well
    rw [Nat.ofDigitChars_cons] at h ⊢
    rw [List.map_cons, gather, hstep, if_pos (Nat.lt_of_le_of_lt (le_ofDigitChars r _) h)]
    exact ih _ h

theorem gather_toDigits {n : Nat} (h : n < 0x10000000000000000) :
    gather 0 ((Nat.toDigits 10 n).map digitValue) = (n, []) := by
  rw [gather_digits _ _ (by rwa [Nat.ofDigitChars_ten_toDigits]), Nat.ofDigitChars_ten_toDigits]

theorem significand_whole (negative : Bool) {n : Nat} (h : n < 0x10000000000000000) :
    (wholeNumeral negative n).significand = (n, 0) := by
  simp only [wholeNumeral, Numeral.significand, gather_toDigits h]
  rfl

theorem value_nonnegative {n : Nat} (h : n < 0x10000000000000000) :
    (wholeNumeral false n).value = .ok (.integer n) := by
  rw [Numeral.value, significand_whole false h]
  simp [wholeNumeral, gather_toDigits h]

theorem value_negative {n : Nat} (h0 : n ≠ 0) (h : n ≤ 0x8000000000000000) :
    (wholeNumeral true n).value = .ok (.integer (-n)) := by
  have hlt : n < 0x10000000000000000 := by omega
  rw [Numeral.value, significand_whole true hlt]
  simp [wholeNumeral, gather_toDigits hlt, h0, h]

/-! ### Whole numbers -/

/-- A whole number that is read as an integer. -/
def FitsWord (i : Int) : Prop := -0x8000000000000000 ≤ i ∧ i < 0x10000000000000000

theorem toList_toString_nonnegative (n : Nat) :
    (toString (n : Int)).toList = Nat.toDigits 10 n := by
  rw [Int.toString_eq_repr, Int.repr_eq_if, if_pos (Int.natCast_nonneg n), Int.toNat_natCast,
    Nat.toList_repr]

theorem toList_toString_negative {n : Nat} (h : n ≠ 0) :
    (toString (-(n : Int))).toList = '-' :: Nat.toDigits 10 n := by
  rw [Int.toString_eq_repr, Int.repr_eq_if, if_neg (by omega), Int.neg_neg, Int.toNat_natCast,
    String.toList_append, Nat.toList_repr]
  rfl

theorem reads_numeral_nonnegative (n : Nat) {rest : List Char} (hr : EndsNumber rest) :
    Reads readNumeral (Nat.toDigits 10 n ++ rest) (wholeNumeral false n) rest := by
  obtain ⟨c, r, heq, -⟩ := toDigits_cases n
  have hc : c ≠ '-' := by
    have hd : c.isDigit = true := digit_of_mem_toDigits (n := n) (heq ▸ List.mem_cons_self)
    rintro rfl
    exact absurd hd (by decide)
  obtain ⟨h, hu⟩ := reads_unsigned false n hr
  refine ⟨h, ?_⟩
  rw [← hu, readNumeral.eq_2]
  intro r' hr'
  rw [heq, List.cons_append] at hr'
  exact hc (List.cons.inj hr').1

theorem reads_numeral_negative (n : Nat) {rest : List Char} (hr : EndsNumber rest) :
    Reads readNumeral ('-' :: (Nat.toDigits 10 n ++ rest)) (wholeNumeral true n) rest := by
  obtain ⟨h, hu⟩ := reads_unsigned true n hr
  refine ⟨Nat.lt_succ_of_lt h, ?_⟩
  rw [readNumeral, hu]
  rfl

theorem reads_number_of_numeral {s rest : List Char} {n : Numeral} {a : Number}
    (h : Reads readNumeral s n rest) (ha : n.value = .ok a) : Reads readNumber s a rest := by
  obtain ⟨hlt, heq⟩ := h
  refine ⟨hlt, ?_⟩
  simp only [readNumber, heq, ok_bind, ha]
  rfl

/-- A written whole number is read back. -/
theorem reads_number {i : Int} (hi : FitsWord i) {rest : List Char} (hr : EndsNumber rest) :
    Reads readNumber ((toString i).toList ++ rest) (.integer i) rest := by
  obtain ⟨hlow, hhigh⟩ := hi
  rcases Int.lt_or_le i 0 with hneg | hpos
  · obtain ⟨n, rfl⟩ : ∃ n : Nat, i = -(n : Int) := ⟨i.natAbs, by omega⟩
    rw [toList_toString_negative (by omega), List.cons_append]
    have hvalue := value_negative (n := n) (by omega) (by omega)
    exact reads_number_of_numeral (reads_numeral_negative n hr) hvalue
  · obtain ⟨n, rfl⟩ : ∃ n : Nat, i = n := ⟨i.toNat, by omega⟩
    rw [toList_toString_nonnegative]
    exact reads_number_of_numeral (reads_numeral_nonnegative n hr) (value_nonnegative (by omega))

/-- A written whole number begins with a sign or a digit. -/
theorem toString_cons (i : Int) :
    ∃ c r, (toString i).toList = c :: r ∧ (c = '-' ∨ c.isDigit = true) := by
  rcases Int.lt_or_le i 0 with hneg | hpos
  · obtain ⟨n, rfl⟩ : ∃ n : Nat, i = -(n : Int) := ⟨i.natAbs, by omega⟩
    exact ⟨'-', _, toList_toString_negative (by omega), .inl rfl⟩
  · obtain ⟨n, rfl⟩ : ∃ n : Nat, i = n := ⟨i.toNat, by omega⟩
    obtain ⟨c, r, heq, -⟩ := toDigits_cases n
    refine ⟨c, r, by rw [toList_toString_nonnegative, heq], .inr ?_⟩
    exact digit_of_mem_toDigits (n := n) (heq ▸ List.mem_cons_self)

end RealmRegistry.Json
