/-
Reading back a TOML string that is written on one line.

As for JSON, every statement has the text that follows as a variable (`Scans`).  Between single
quotes a text stands as it is, so it must not end too early; between double quotes it is escaped
character by character.

* `escapeChar_cases` — what is written of a character between double quotes;
* `scans_basic`, `scans_literal` — both forms of a string.
-/
import RealmRegistry.Toml.Text

namespace RealmRegistry.Toml

open RealmRegistry.Text

/-- A reader finds `a` at the front of `s` and leaves `rest`. -/
def Scans {α : Type} (r : Scan α) (s : List Char) (a : α) (rest : List Char) : Prop :=
  ∃ h, r s = some ⟨a, rest, h⟩

/-! ### Characters -/

theorem isPlain_of_not_isControl {c : Char} (h : isControl c = false) (hc : c ≠ '\n') :
    isPlain c = true := by
  simpa [isControl, hc] using h

theorem ne_return_of_isPlain {c : Char} (h : isPlain c = true) : c ≠ '\r' := by
  rintro rfl
  exact absurd h (by decide)

theorem code_of_not_isPlain {c : Char} (h : isPlain c = false) :
    c.toNat < 0x20 ∨ c.toNat = 0x7f := by
  simp only [isPlain, Bool.or_eq_false_iff, Bool.and_eq_false_iff, decide_eq_false_iff_not,
    bne_eq_false_iff_eq] at h
  omega

theorem afterBreak?_newline (r : List Char) :
    ∃ h, afterBreak? ('\n' :: r) = some ⟨(), r, h⟩ :=
  ⟨Nat.lt_succ_self _, rfl⟩

theorem afterBreak?_none {c : Char} (hn : c ≠ '\n') (hr : c ≠ '\r') (r : List Char) :
    afterBreak? (c :: r) = none := by
  rw [afterBreak?]
  · intro s h
    exact hn (List.cons.inj h).1
  · intro s h
    exact hr (List.cons.inj h).1

/-! ### Escapes -/

/-- What stands behind the backslash for a character: it is read as the character, and it does not
look like the end of a line. -/
def Escapes (e : List Char) (c : Char) : Prop :=
  (∀ s, Scans readEscape (e ++ s) c s) ∧ ∀ s, afterLineEnd? (e ++ s) = none

theorem afterLineEnd?_none {c : Char} (hs : isSpace c = false) (hn : c ≠ '\n') (hr : c ≠ '\r')
    (r : List Char) : afterLineEnd? (c :: r) = none := by
  have hskip : skipSpace (c :: r) = c :: r := List.dropWhile_cons_of_neg (by simp [hs])
  rw [afterLineEnd?, Option.map_eq_none_iff, hskip]
  exact afterBreak?_none hn hr r

theorem escapes_letter {l c : Char} (h : letterEscape? l = some c) (hs : isSpace l = false)
    (hn : l ≠ '\n') (hr : l ≠ '\r') : Escapes [l] c := by
  refine ⟨fun s => ⟨Nat.lt_succ_self _, ?_⟩, afterLineEnd?_none hs hn hr⟩
  show readEscape (l :: s) = _
  rw [readEscape]
  simp only [h]
  rfl

/-- The code of a character that has no letter is that of its four digits. -/
theorem escapes_hex {c : Char} (h : isPlain c = false) :
    ∃ e, hexEscape c.toNat = '\\' :: e ∧ Escapes e c := by
  have hdigits : ∀ n < 0x80, n < 0x20 ∨ n = 0x7f →
      hexValue? (Char.ofNat (if n / 16 < 10 then 48 + n / 16 else 55 + n / 16)) = some (n / 16) ∧
      hexValue? (Char.ofNat (if n % 16 < 10 then 48 + n % 16 else 55 + n % 16)) =
        some (n % 16) ∧ n.isValidChar := by decide
  have hcode := code_of_not_isPlain h
  obtain ⟨hhigh, hlow, hvalid⟩ := hdigits c.toNat (by omega) hcode
  refine ⟨_, rfl, fun s => ⟨by simp only [List.length_append, List.length_cons]; omega, ?_⟩,
    fun s => afterLineEnd?_none (c := 'u') (by decide) (by decide) (by decide) _⟩
  have hzero : hexValue? '0' = some 0 := by decide
  have hvalue : ((0 * 16 + 0) * 16 + 0) * 16 + c.toNat / 16 = c.toNat / 16 := by omega
  have hcode' : c.toNat / 16 * 16 + c.toNat % 16 = c.toNat := by omega
  have hletter : letterEscape? 'u' = none := by decide
  simp only [List.cons_append, readEscape, hletter, readScalar, readHex, hzero, hhigh, hlow,
    hvalue, hcode', if_pos hvalid, Char.ofNat_toNat, Option.map_some]
  rfl

theorem eq_ofNat {c : Char} {n : Nat} (h : c.toNat = n) : Char.ofNat n = c := by
  rw [← h, Char.ofNat_toNat]

/-- A character other than a quote stands as it is or behind a backslash; only in a string over
several lines, a line break stands as it is. -/
theorem escapeChar_cases (multi : Bool) {c : Char} (hc : c ≠ '"') :
    (escapeChar multi c = [c] ∧ isPlain c = true ∧ c ≠ '\\') ∨
      (∃ e, escapeChar multi c = '\\' :: e ∧ Escapes e c) ∨
      (multi = true ∧ c = '\n' ∧ escapeChar multi c = ['\n']) := by
  have hletter {l : Char} (h : letterEscape? l = some c) (hs : isSpace l = false)
      (hn : l ≠ '\n') (hr : l ≠ '\r') (heq : escapeChar multi c = ['\\', l]) :
      ∃ e, escapeChar multi c = '\\' :: e ∧ Escapes e c :=
    ⟨[l], heq, escapes_letter h hs hn hr⟩
  by_cases hb : c.toNat = 8
  · refine .inr (.inl (hletter (l := 'b') ?_ (by decide) (by decide) (by decide) ?_))
    · exact congrArg some (eq_ofNat hb)
    · rw [escapeChar, if_pos hb]
  by_cases ht : c = '\t'
  · subst ht
    exact .inr (.inl (hletter (l := 't') rfl (by decide) (by decide) (by decide) rfl))
  by_cases hn : c = '\n'
  · subst hn
    cases multi with
    | true => exact .inr (.inr ⟨rfl, rfl, rfl⟩)
    | false => exact .inr (.inl (hletter (l := 'n') rfl (by decide) (by decide) (by decide) rfl))
  by_cases hf : c.toNat = 12
  · refine .inr (.inl (hletter (l := 'f') ?_ (by decide) (by decide) (by decide) ?_))
    · exact congrArg some (eq_ofNat hf)
    · rw [escapeChar, if_neg hb, if_neg ht, if_neg hn, if_pos hf]
  by_cases hr : c = '\r'
  · subst hr
    exact .inr (.inl (hletter (l := 'r') rfl (by decide) (by decide) (by decide) rfl))
  by_cases hslash : c = '\\'
  · subst hslash
    exact .inr (.inl (hletter (l := '\\') rfl (by decide) (by decide) (by decide) rfl))
  -- no letter stands for the character
  have heq : escapeChar multi c = if isPlain c then [c] else hexEscape c.toNat := by
    rw [escapeChar, if_neg hb, if_neg ht, if_neg hn, if_neg hf, if_neg hr, if_neg hslash]
  rw [heq]
  cases hplain : isPlain c with
  | true => exact .inl ⟨rfl, rfl, hslash⟩
  | false => exact .inr (.inl (escapes_hex hplain))

/-! ### Strings on one line -/

section Basic

variable {s rest cs : List Char} {c : Char}

theorem scans_basic_close (rest : List Char) : Scans readBasic ('"' :: rest) [] rest := by
  refine ⟨Nat.lt_succ_self _, ?_⟩
  rw [readBasic, if_pos rfl]
  rfl

theorem scans_basic_plain (hq : c ≠ '"') (hb : c ≠ '\\') (hp : isPlain c = true)
    (h : Scans readBasic s cs rest) : Scans readBasic (c :: s) (c :: cs) rest := by
  obtain ⟨hlt, heq⟩ := h
  refine ⟨Nat.lt_succ_of_lt hlt, ?_⟩
  rw [readBasic, if_neg hq, if_neg hb, if_pos hp, heq]
  rfl

theorem scans_basic_escape {e : List Char} (he : Scans readEscape e c s)
    (h : Scans readBasic s cs rest) : Scans readBasic ('\\' :: e) (c :: cs) rest := by
  obtain ⟨hlt, heq⟩ := h
  obtain ⟨hlt', heq'⟩ := he
  refine ⟨by simp only [List.length_cons]; omega, ?_⟩
  rw [readBasic, if_neg (by decide), if_pos rfl, heq']
  simp only [heq]
  rfl

end Basic

/-- Between double quotes on one line every quote is escaped. -/
theorem scans_basic (s rest : List Char) :
    Scans readBasic (escapeText false 0 0 s ++ '"' :: rest) s rest := by
  induction s with
  | nil => exact scans_basic_close rest
  | cons c s ih =>
    by_cases hc : c = '"'
    · have hquote := escapes_letter (l := '"') rfl (by decide) (by decide) (by decide)
      rw [escapeText, if_pos hc, if_neg (Nat.lt_irrefl 0), hc]
      exact scans_basic_escape (hquote.1 _) ih
    · rw [escapeText, if_neg hc, List.append_assoc]
      rcases escapeChar_cases false hc with ⟨heq, hp, hb⟩ | ⟨e, heq, he⟩ | ⟨hmulti, -⟩
      · rw [heq]
        exact scans_basic_plain hc hb hp ih
      · rw [heq, List.cons_append]
        exact scans_basic_escape (he.1 _) ih
      · exact absurd hmulti Bool.false_ne_true

/-- Between single quotes on one line a text stands as it is. -/
theorem scans_literal {s : List Char} (rest : List Char)
    (hs : ∀ c ∈ s, c ≠ '\'' ∧ isPlain c = true) :
    Scans readLiteral (s ++ '\'' :: rest) s rest := by
  induction s with
  | nil => exact ⟨Nat.lt_succ_self _, rfl⟩
  | cons c s ih =>
    obtain ⟨hc, hp⟩ := hs c List.mem_cons_self
    obtain ⟨hlt, heq⟩ := ih fun d hd => hs d (List.mem_cons_of_mem c hd)
    rw [List.cons_append]
    refine ⟨Nat.lt_succ_of_lt hlt, ?_⟩
    rw [readLiteral, if_neg hc, if_pos hp, heq]
    rfl

end RealmRegistry.Toml
