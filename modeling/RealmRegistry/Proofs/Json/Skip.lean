/-
Passing over what can be read.

A value that nobody asked for is passed over with the open brackets in a list, and its words need
not mean anything.  Whatever can be read can be passed over, and the same text is left behind it.

* `reads_skipChars_of_text`, `reads_skipNumber_of_number` — strings and numbers;
* `reads_skipValueIn_append`, `passes_skipRestIn_append` — what is passed over within some brackets
  is passed over within more of them;
* `passes_skipRestIn_items`, `passes_skipRestIn_members` — the rest of a list, and of an object.
-/
import RealmRegistry.Json.Skip
import RealmRegistry.Proofs.Json.Steps

namespace RealmRegistry.Json

open RealmRegistry.Text

/-! ### Strings -/

section Strings

variable {s r u rest : List Char} {n : Nat} {c : Char}

@[simp] theorem skipChars_quote (r : List Char) : skipChars ('"' :: r) = .ok (.first () '"' r) := by
  rw [skipChars.eq_def]
  exact if_pos rfl

theorem skipChars_letter {d e : Char} (h : letterEscape? d = some e) (r : List Char) :
    skipChars ('\\' :: d :: r) = (skipChars r).map fun t => (t.behind d).behind '\\' := by
  rw [skipChars, if_neg (by decide), if_pos rfl, h]
  rfl

theorem skipChars_plain (hquote : c ≠ '"') (hslash : c ≠ '\\') (hcontrol : ¬ c.toNat < 32)
    (r : List Char) : skipChars (c :: r) = (skipChars r).map (Taken.behind c) := by
  rw [skipChars.eq_def]
  simp only [if_neg hquote, if_neg hslash, if_neg hcontrol]

theorem reads_skipChars_hex (h : Reads readHex4 r n u) (hrest : Reads skipChars u () rest) :
    Reads skipChars ('\\' :: 'u' :: r) () rest := by
  obtain ⟨hu, h⟩ := h
  obtain ⟨hlt, hrest⟩ := hrest
  refine ⟨by simp only [List.length_cons]; omega, ?_⟩
  rw [skipChars, if_neg (by decide), if_pos rfl]
  simp only [letterEscape?, h, hrest]
  rfl

/-- The second half of a pair is one more escape. -/
theorem reads_skipChars_trailing (h : Reads (readTrailing n) s c u)
    (hrest : Reads skipChars u () rest) : Reads skipChars s () rest := by
  obtain ⟨hu, h⟩ := h
  rw [readTrailing.eq_def] at h
  -- only a backslash and a u can begin the second half
  split at h
  · cases h
  · cases h
  · obtain ⟨⟨m, v, hv⟩, hhex, h⟩ := bind_eq_ok.1 h
    split at h
    · obtain rfl : v = u := congrArg Taken.rest (Except.ok.inj h)
      exact reads_skipChars_hex ⟨hv, hhex⟩ hrest
    · cases h
  · cases h
  · cases h

theorem reads_skipChars_escape (h : Reads escape s c u) (hrest : Reads skipChars u () rest) :
    Reads skipChars ('\\' :: s) () rest := by
  obtain ⟨hu, h⟩ := h
  rw [escape.eq_def] at h
  split at h
  · cases h
  next d r =>
    split at h
    next e hletter =>
      obtain rfl : r = u := congrArg Taken.rest (Except.ok.inj h)
      obtain ⟨hlt, hrest⟩ := hrest
      refine ⟨by simp only [List.length_cons]; omega, ?_⟩
      rw [skipChars_letter hletter, hrest]
      rfl
    next hletter =>
      split at h
      next hd =>
        -- four digits, and four more if they are the first half of a pair
        subst hd
        obtain ⟨⟨_, _, hlt⟩, hunit, heq⟩ := map_eq_ok.1 h
        cases heq
        obtain ⟨⟨m, v, hv⟩, hhex, hunit⟩ := bind_eq_ok.1 hunit
        split at hunit
        · cases hunit
        · split at hunit
          · obtain ⟨⟨d, w, hw⟩, htrailing, hpair⟩ := bind_eq_ok.1 hunit
            cases hpair
            exact reads_skipChars_hex ⟨hv, hhex⟩
              (reads_skipChars_trailing ⟨hw, htrailing⟩ hrest)
          · cases hunit
            exact reads_skipChars_hex ⟨hv, hhex⟩ hrest
      · cases h

theorem reads_skipChars_of_chars {cs : List Char} (h : Reads readChars s cs rest) :
    Reads skipChars s () rest := by
  obtain ⟨hlt, h⟩ := h
  -- by the steps of the reader: a closing quote, an escape or a character that stands for itself
  fun_induction readChars s generalizing cs with
  | case1 | case3 | case5 => cases h
  | case2 r =>
    cases h
    refine ⟨hlt, ?_⟩
    exact skipChars_quote r
  | case4 r t hescape _ ih =>
    obtain ⟨⟨_, _, hrest⟩, hread, heq⟩ := map_eq_ok.1 h
    cases heq
    exact reads_skipChars_escape ⟨t.shorter, hescape⟩ (ih hrest hread)
  | case6 c r hquote hslash hcontrol ih =>
    obtain ⟨⟨_, _, hrest⟩, hread, heq⟩ := map_eq_ok.1 h
    cases heq
    obtain ⟨_, hskip⟩ := ih hrest hread
    refine ⟨hlt, ?_⟩
    rw [skipChars_plain hquote hslash hcontrol, hskip]
    rfl

theorem reads_skipChars_of_text {t : String} (h : Reads readText s t rest) :
    Reads skipChars s () rest := by
  obtain ⟨_, hread, -⟩ := reads_map_iff.1 h
  exact reads_skipChars_of_chars hread

end Strings

/-! ### Numbers -/

section Numbers

variable {s u rest : List Char}

theorem passes_skipExponent {e : Option (Bool × List Nat)} (h : Gathers readExponent s e rest) :
    Passes skipExponent s rest := by
  obtain ⟨hle, h⟩ := h
  rw [readExponent.eq_def] at h
  refine ⟨hle, ?_⟩
  rw [skipExponent.eq_def]
  split at h
  · cases h
    rfl
  next c r =>
    split at h
    next hc =>
      -- behind the sign there has to be a digit, whatever number they all make
      simp only [if_pos hc]
      rcases hsign : readSign r with ⟨negative, ⟨_ | ⟨d, r'⟩, hr⟩⟩
      · rw [hsign] at h
        cases h
      · rw [hsign] at h
        dsimp only at h
        split at h
        next hd =>
          cases h
          dsimp only
          rw [skipExponentDigits, if_pos hd]
          rfl
        next hd => cases h
    next hc =>
      cases h
      exact if_neg hc

theorem passes_skipFraction {f : List Nat} {e : Option (Bool × List Nat)}
    (h : Gathers readFraction s f u) (he : Gathers readExponent u e rest) :
    Passes skipFraction s rest := by
  obtain ⟨hle, h⟩ := h
  obtain ⟨hexponent, hskip⟩ := passes_skipExponent he
  rw [readFraction.eq_def] at h
  refine ⟨Nat.le_trans hexponent hle, ?_⟩
  rw [skipFraction.eq_def]
  split at h
  · cases h
  next c r =>
    split at h
    next hc =>
      cases h
      have hskip : skipExponent (Rest.dropWhile Char.isDigit r).1 = .ok ⟨rest, hexponent⟩ := hskip
      simp only [if_pos hc, hskip]
      rfl
    next hc => cases h
  next hend hpoint =>
    -- without a point it is the exponent that comes next
    cases h
    split
    next c r => exact absurd rfl (hpoint c r)
    next => exact absurd rfl hend
    next => exact hskip

/-- What follows the whole part of a number is behind the digits that are passed over. -/
theorem reads_skipUnsigned_of_whole {whole : List Nat} (h : Reads readWhole s whole u)
    (hskip : Passes skipFraction u rest) : Reads skipUnsigned s () rest := by
  obtain ⟨hu, h⟩ := h
  obtain ⟨hle, hskip⟩ := hskip
  refine ⟨Nat.lt_of_le_of_lt hle hu, ?_⟩
  rw [readWhole.eq_def] at h
  rw [skipUnsigned.eq_def]
  cases s with
  | nil => cases h
  | cons c r =>
    dsimp only at h ⊢
    by_cases hc : c = '0'
    · -- a zero is all of the whole part
      rw [if_pos hc] at h ⊢
      cases r with
      | nil =>
        obtain rfl : [] = u := congrArg Taken.rest (Except.ok.inj h)
        obtain rfl : rest = [] := List.length_eq_zero_iff.1 (Nat.le_zero.1 hle)
        rfl
      | cons d r =>
        dsimp only at h ⊢
        by_cases hd : d.isDigit = true
        · rw [if_pos hd] at h
          cases h
        · rw [if_neg hd] at h ⊢
          obtain rfl : d :: r = u := congrArg Taken.rest (Except.ok.inj h)
          rw [hskip]
          rfl
    · rw [if_neg hc] at h ⊢
      by_cases hdigit : c.isDigit = true
      · rw [if_pos hdigit] at h ⊢
        obtain rfl : r.dropWhile Char.isDigit = u := congrArg Taken.rest (Except.ok.inj h)
        have hskip : skipFraction (Rest.dropWhile Char.isDigit r).1 = .ok ⟨rest, hle⟩ := hskip
        rw [hskip]
        rfl
      · rw [if_neg hdigit] at h
        cases h

theorem reads_skipUnsigned {negative : Bool} {n : Numeral}
    (h : Reads (readUnsigned negative) s n rest) : Reads skipUnsigned s () rest := by
  obtain ⟨hlt, h⟩ := h
  obtain ⟨whole, hwhole, h⟩ := bind_eq_ok.1 h
  obtain ⟨⟨fraction, u⟩, hfraction, h⟩ := bind_eq_ok.1 h
  obtain ⟨⟨exponent, v⟩, hexponent, h⟩ := bind_eq_ok.1 h
  obtain rfl : v.1 = rest := congrArg Taken.rest (Except.ok.inj h)
  exact reads_skipUnsigned_of_whole ⟨whole.shorter, hwhole⟩
    (passes_skipFraction ⟨u.2, hfraction⟩ ⟨v.2, hexponent⟩)

theorem reads_skipNumber {n : Numeral} (h : Reads readNumeral s n rest) :
    Reads skipNumber s () rest := by
  obtain ⟨hlt, h⟩ := h
  refine ⟨hlt, ?_⟩
  -- both look for a sign in the same place, and go on in the same way
  by_cases hsign : ∃ r, s = '-' :: r
  · obtain ⟨r, rfl⟩ := hsign
    rw [readNumeral] at h
    obtain ⟨u, hunsigned, heq⟩ := map_eq_ok.1 h
    obtain rfl : u.rest = rest := congrArg Taken.rest heq
    obtain ⟨_, hskip⟩ := reads_skipUnsigned ⟨u.shorter, hunsigned⟩
    rw [skipNumber, hskip]
    rfl
  · have hother : ∀ r, s ≠ '-' :: r := fun r hs => hsign ⟨r, hs⟩
    rw [readNumeral.eq_2 _ hother] at h
    obtain ⟨_, hskip⟩ := reads_skipUnsigned ⟨hlt, h⟩
    rw [skipNumber.eq_2 _ hother, hskip]

theorem reads_skipNumber_of_number {n : Number} (h : Reads readNumber s n rest) :
    Reads skipNumber s () rest := by
  obtain ⟨hlt, h⟩ := h
  obtain ⟨t, hnumeral, h⟩ := bind_eq_ok.1 h
  obtain rfl : t.rest = rest := by
    split at h
    · exact congrArg Taken.rest (Except.ok.inj h)
    · cases h
  exact reads_skipNumber ⟨t.shorter, hnumeral⟩

end Numbers

/-! ### Open brackets -/

section Brackets

variable {opened outer : List Bracket} {b : Bracket} {s r u v w rest : List Char} {c d : Char}

/-- How a value is passed over with what is left of the brackets around it. -/
inductive PassedIn (opened : List Bracket) (s rest : List Char) : Prop
  /-- a value without brackets -/
  | scalar {c : Char} {r w : List Char} (hs : skipSpace s = c :: r)
      (hc : Bracket.ofChar? c = none) (hscalar : ∃ h, skipScalar c r = .ok ⟨(), w, h⟩)
      (hrest : Passes (skipRestIn opened) w rest)
  /-- brackets with nothing between them -/
  | empty {c : Char} {b : Bracket} {r w : List Char} (hs : skipSpace s = c :: r)
      (hc : Bracket.ofChar? c = some b) (hr : skipSpace r = b.close :: w)
      (hrest : Passes (skipRestIn opened) w rest)
  /-- the first value between brackets -/
  | inside {c d : Char} {b : Bracket} {r v w : List Char} (hs : skipSpace s = c :: r)
      (hc : Bracket.ofChar? c = some b) (hr : skipSpace r = d :: v) (hd : d ≠ b.close)
      (hkey : Passes b.skipKey (d :: v) w) (hvalue : Reads (skipValueIn (b :: opened)) w () rest)

theorem PassedIn.of_reads (h : Reads (skipValueIn opened) s () rest) :
    PassedIn opened s rest := by
  obtain ⟨hlt, h⟩ := h
  rw [skipValueIn] at h
  rcases hs : afterSpace s with ⟨_ | ⟨c, r⟩, hle⟩
  · rw [hs] at h
    cases h
  have hspace : skipSpace s = c :: r := congrArg Subtype.val hs
  rw [hs] at h
  cases hc : Bracket.ofChar? c with
  | none =>
    simp only [hc] at h
    cases hscalar : skipScalar c r with
    | error e =>
      rw [hscalar] at h
      cases h
    | ok t =>
      rw [hscalar] at h
      obtain ⟨u, hrest, heq⟩ := map_eq_ok.1 h
      obtain rfl : u.1 = rest := congrArg Taken.rest heq
      exact .scalar hspace hc ⟨t.shorter, hscalar⟩ ⟨u.2, hrest⟩
  | some b =>
    -- the closing bracket may follow at once, and else a value, behind its key if it needs one
    simp only [hc] at h
    rcases hr : afterSpace r with ⟨_ | ⟨d, v⟩, hle'⟩
    · rw [hr] at h
      cases h
    have hinside : skipSpace r = d :: v := congrArg Subtype.val hr
    rw [hr] at h
    dsimp only at h
    split at h
    next hd =>
      obtain ⟨u, hrest, heq⟩ := map_eq_ok.1 h
      obtain rfl : u.1 = rest := congrArg Taken.rest heq
      exact .empty hspace hc (hd ▸ hinside) ⟨u.2, hrest⟩
    next hd =>
      split at h
      · cases h
      next w hw hkey =>
        obtain ⟨u, hvalue, heq⟩ := map_eq_ok.1 h
        obtain rfl : u.rest = rest := congrArg Taken.rest heq
        exact .inside hspace hc hinside hd ⟨hw, hkey⟩ ⟨u.shorter, hvalue⟩

theorem PassedIn.reads (h : PassedIn opened s rest) : Reads (skipValueIn opened) s () rest := by
  cases h with
  | @scalar c r w hs hc hscalar hrest =>
    obtain ⟨hle, hafter⟩ := afterSpace_eq hs
    obtain ⟨hw, hscalar⟩ := hscalar
    obtain ⟨hrest, hskip⟩ := hrest
    refine ⟨Nat.lt_of_le_of_lt hrest (Nat.lt_of_lt_of_le hw hle), ?_⟩
    rw [skipValueIn, hafter]
    simp only [hc, hscalar, hskip]
    rfl
  | @empty c b r w hs hc hr hrest =>
    obtain ⟨hle, hafter⟩ := afterSpace_eq hs
    obtain ⟨hle', hinside⟩ := afterSpace_eq hr
    obtain ⟨hrest, hskip⟩ := hrest
    refine ⟨by simp only [List.length_cons] at hle hle'; omega, ?_⟩
    rw [skipValueIn, hafter]
    simp only [hc, hinside, if_true, hskip]
    rfl
  | @inside c d b r v w hs hc hr hd hkey hvalue =>
    obtain ⟨hle, hafter⟩ := afterSpace_eq hs
    obtain ⟨hle', hinside⟩ := afterSpace_eq hr
    obtain ⟨hw, hkey⟩ := hkey
    obtain ⟨hvalue, hskip⟩ := hvalue
    refine ⟨by simp only [List.length_cons] at hle hle' hw; omega, ?_⟩
    rw [skipValueIn, hafter]
    simp only [hc, hinside, if_neg hd, hkey, hskip]
    rfl

/-- How the rest of a value within brackets is passed over. -/
inductive RestPassedIn (b : Bracket) (outer : List Bracket) (s rest : List Char) : Prop
  /-- another value, behind its key if it needs one -/
  | more {r w : List Char} (hs : skipSpace s = ',' :: r) (hkey : Passes b.skipKey r w)
      (hvalue : Reads (skipValueIn (b :: outer)) w () rest)
  /-- nothing more within the innermost brackets -/
  | close {r : List Char} (hs : skipSpace s = b.close :: r)
      (hrest : Passes (skipRestIn outer) r rest)

theorem RestPassedIn.of_passes (h : Passes (skipRestIn (b :: outer)) s rest) :
    RestPassedIn b outer s rest := by
  obtain ⟨hlt, h⟩ := h
  rw [skipRestIn] at h
  rcases hs : afterSpace s with ⟨_ | ⟨c, r⟩, hle⟩
  · rw [hs] at h
    cases h
  have hspace : skipSpace s = c :: r := congrArg Subtype.val hs
  rw [hs] at h
  dsimp only at h
  split at h
  next hc =>
    subst hc
    split at h
    · cases h
    next w hw hkey =>
      obtain ⟨u, hvalue, heq⟩ := map_eq_ok.1 h
      obtain rfl : u.rest = rest := congrArg Subtype.val heq
      exact .more hspace ⟨hw, hkey⟩ ⟨u.shorter, hvalue⟩
  next hc =>
    split at h
    next hclose =>
      obtain ⟨u, hrest, heq⟩ := map_eq_ok.1 h
      obtain rfl : u.1 = rest := congrArg Subtype.val heq
      exact .close (hclose ▸ hspace) ⟨u.2, hrest⟩
    next hclose => cases h

theorem RestPassedIn.passes (h : RestPassedIn b outer s rest) :
    Passes (skipRestIn (b :: outer)) s rest := by
  cases h with
  | @more r w hs hkey hvalue =>
    obtain ⟨hle, hafter⟩ := afterSpace_eq hs
    obtain ⟨hw, hkey⟩ := hkey
    obtain ⟨hvalue, hskip⟩ := hvalue
    refine ⟨by simp only [List.length_cons] at hle; omega, ?_⟩
    rw [skipRestIn, hafter]
    simp only [if_true, hkey, hskip]
    rfl
  | @close r hs hrest =>
    obtain ⟨hle, hafter⟩ := afterSpace_eq hs
    obtain ⟨hrest, hskip⟩ := hrest
    have hcomma : b.close ≠ ',' := by cases b <;> decide
    refine ⟨by simp only [List.length_cons] at hle; omega, ?_⟩
    rw [skipRestIn, hafter]
    simp only [if_neg hcomma, if_true, hskip]
    rfl

theorem passes_skipRestIn_nil : Passes (skipRestIn []) s s := by
  refine ⟨Nat.le_refl _, ?_⟩
  rw [skipRestIn]
  rfl

theorem eq_of_passes_skipRestIn_nil (h : Passes (skipRestIn []) s rest) : rest = s := by
  obtain ⟨_, h⟩ := h
  rw [skipRestIn] at h
  exact (congrArg Subtype.val (Except.ok.inj h)).symm

-- Brackets are passed over one step at a time and not value by value, so the induction is on the
-- length of what is still to be passed over.
mutual

/-- Further brackets around what is passed over only have to be closed behind it. -/
theorem reads_skipValueIn_append {opened outer : List Bracket} {s r rest : List Char}
    (h : Reads (skipValueIn opened) s () r) (hrest : Passes (skipRestIn outer) r rest) :
    Reads (skipValueIn (opened ++ outer)) s () rest := by
  refine PassedIn.reads ?_
  cases PassedIn.of_reads h with
  | @scalar c t w hs hc hscalar hskip =>
    have hlt : w.length < s.length := Nat.lt_of_lt_of_le hscalar.1 (length_of_skipSpace hs)
    exact .scalar hs hc hscalar (passes_skipRestIn_append hskip hrest)
  | @empty c b t w hs hc ht hskip =>
    have hlt : w.length < s.length := by
      have hle := length_of_skipSpace hs
      have hle' := length_of_skipSpace ht
      simp only [List.length_cons] at hle hle'
      omega
    exact .empty hs hc ht (passes_skipRestIn_append hskip hrest)
  | @inside c d b t v w hs hc ht hd hkey hvalue =>
    have hlt : w.length < s.length := by
      have hle := length_of_skipSpace hs
      have hle' := length_of_skipSpace ht
      have hle'' := hkey.1
      simp only [List.length_cons] at hle hle' hle''
      omega
    exact .inside hs hc ht hd hkey (reads_skipValueIn_append hvalue hrest)
termination_by s.length

theorem passes_skipRestIn_append {opened outer : List Bracket} {s r rest : List Char}
    (h : Passes (skipRestIn opened) s r) (hrest : Passes (skipRestIn outer) r rest) :
    Passes (skipRestIn (opened ++ outer)) s rest := by
  cases opened with
  | nil =>
    obtain rfl := eq_of_passes_skipRestIn_nil h
    exact hrest
  | cons b opened =>
    refine RestPassedIn.passes ?_
    cases RestPassedIn.of_passes h with
    | @more t w hs hkey hvalue =>
      have hlt : w.length < s.length := by
        have hle := length_of_skipSpace hs
        have hle' := hkey.1
        simp only [List.length_cons] at hle
        omega
      exact .more hs hkey (reads_skipValueIn_append hvalue hrest)
    | @close t hs hskip =>
      have hlt : t.length < s.length := length_of_skipSpace hs
      exact .close hs (passes_skipRestIn_append hskip hrest)
termination_by s.length

end

end Brackets

/-! ### Lists and objects -/

section Values

variable {value : Reader (Fault SyntaxError) Json} {opened outer : List Bracket}
  {s r u w e rest : List Char}

/-- Whatever a reader reads can be passed over. -/
def Skippable (value : Reader (Fault SyntaxError) Json) : Prop :=
  ∀ ⦃s : List Char⦄ ⦃v : Json⦄ ⦃r : List Char⦄, Reads value s v r → Reads skipValue s () r

/-- A value is passed over with the blanks before it. -/
theorem reads_skipValueIn_of_skipSpace (h : Reads (skipValueIn opened) (skipSpace s) () rest) :
    Reads (skipValueIn opened) s () rest := by
  refine PassedIn.reads ?_
  have hspace := skipSpace_skipSpace s
  cases PassedIn.of_reads h with
  | scalar hs hc hscalar hrest => exact .scalar (hspace ▸ hs) hc hscalar hrest
  | empty hs hc hr hrest => exact .empty (hspace ▸ hs) hc hr hrest
  | inside hs hc hr hd hkey hvalue => exact .inside (hspace ▸ hs) hc hr hd hkey hvalue

/-- What a reader reads within brackets is passed over if the rest of these is. -/
theorem Skippable.within (hvalue : Skippable value) {v : Json} (h : Reads value r v u)
    (hrest : Passes (skipRestIn opened) u rest) : Reads (skipValueIn opened) r () rest := by
  have hskip : Reads (skipValueIn []) r () u := hvalue h
  exact reads_skipValueIn_append hskip hrest

theorem passes_skipKey {k : String} (hs : skipSpace s = '"' :: r) (hkey : Reads readText r k u)
    (hcolon : Passes readColon u rest) : Passes skipKey s rest := by
  obtain ⟨hle, hafter⟩ := afterSpace_eq hs
  obtain ⟨hu, hskip⟩ := reads_skipChars_of_text hkey
  obtain ⟨hrest, hcolon⟩ := hcolon
  refine ⟨by simp only [List.length_cons] at hle; omega, ?_⟩
  rw [skipKey, hafter]
  simp only [if_true, hskip, hcolon]
  rfl

/-- The rest of a list that is read can be passed over. -/
theorem passes_skipRestIn_items (hvalue : Skippable value) {vs : List Json}
    (h : Gathers (readItems value false) s vs w) (hend : Reads endList w () e)
    (hrest : Passes (skipRestIn outer) e rest) : Passes (skipRestIn (.list :: outer)) s rest := by
  induction vs generalizing s with
  | nil =>
    obtain ⟨-, rfl⟩ := gathers_readItems_nil_iff.1 h
    exact RestPassedIn.passes (.close (reads_endList_iff.1 hend) hrest)
  | cons v vs ih =>
    obtain ⟨t, u, hnext, hread, hmore⟩ := gathers_readItems_cons_iff.1 h
    have hitem := ItemAt.of_nextItem hnext
    rw [Option.map_some] at hitem
    generalize t.1 = item at hread hitem
    cases hitem with
    | @later c r u' hs hu hc =>
      -- what is behind the element is the rest of the same list
      refine RestPassedIn.passes (.more hs ⟨Nat.le_refl _, rfl⟩ ?_)
      rw [← hu] at hread
      exact reads_skipValueIn_of_skipSpace (hvalue.within hread (ih hmore))

/-- The rest of an object that is read can be passed over. -/
theorem passes_skipRestIn_members (hvalue : Skippable value) {ms : List (String × Json)}
    (h : Gathers (readMembers value false) s ms w) (hend : Reads endObject w () e)
    (hrest : Passes (skipRestIn outer) e rest) : Passes (skipRestIn (.object :: outer)) s rest := by
  induction ms generalizing s with
  | nil =>
    obtain ⟨-, rfl⟩ := gathers_readMembers_nil_iff.1 h
    exact RestPassedIn.passes (.close (reads_endObject_iff.1 hend) hrest)
  | cons m ms ih =>
    obtain ⟨t, c, r, u, hnext, hkey, hcolon, hread, hmore⟩ := gathers_readMembers_cons_iff.1 h
    have hmember := MemberAt.of_nextMember hnext
    rw [Option.map_some] at hmember
    generalize t.1 = member at hkey hmember
    cases hmember with
    | @later _ u' hs hu =>
      exact RestPassedIn.passes (.more hs (passes_skipKey hu hkey hcolon)
        (hvalue.within hread (ih hmore)))

/-- A list that is read can be passed over, -/
theorem reads_skipValue_list (hvalue : Skippable value) {vs : List Json}
    (hs : skipSpace s = '[' :: r) (h : Gathers (readItems value true) r vs w)
    (hend : Reads endList w () e) : Reads skipValue s () e := by
  refine PassedIn.reads ?_
  cases vs with
  | nil =>
    obtain ⟨-, rfl⟩ := gathers_readItems_nil_iff.1 h
    exact .empty hs rfl (reads_endList_iff.1 hend) passes_skipRestIn_nil
  | cons v vs =>
    obtain ⟨t, u, hnext, hread, hmore⟩ := gathers_readItems_cons_iff.1 h
    have hitem := ItemAt.of_nextItem hnext
    rw [Option.map_some] at hitem
    generalize t.1 = item at hread hitem
    cases hitem with
    | @first c r' hr hc =>
      refine .inside hs rfl hr hc ⟨Nat.le_refl _, rfl⟩ (hvalue.within hread ?_)
      exact passes_skipRestIn_items hvalue hmore hend passes_skipRestIn_nil

/-- and so can an object. -/
theorem reads_skipValue_object (hvalue : Skippable value) {ms : List (String × Json)}
    (hs : skipSpace s = '{' :: r) (h : Gathers (readMembers value true) r ms w)
    (hend : Reads endObject w () e) : Reads skipValue s () e := by
  refine PassedIn.reads ?_
  cases ms with
  | nil =>
    obtain ⟨-, rfl⟩ := gathers_readMembers_nil_iff.1 h
    exact .empty hs rfl (reads_endObject_iff.1 hend) passes_skipRestIn_nil
  | cons m ms =>
    obtain ⟨t, c, r', u, hnext, hkey, hcolon, hread, hmore⟩ := gathers_readMembers_cons_iff.1 h
    have hmember := MemberAt.of_nextMember hnext
    rw [Option.map_some] at hmember
    generalize t.1 = member at hkey hmember
    cases hmember with
    | @first _ hr =>
      -- the key was told by its quote, which is still to be passed over
      have hquote : skipSpace ('"' :: member) = '"' :: member := skipSpace_cons (by decide) member
      refine .inside hs rfl hr (by decide) (passes_skipKey hquote hkey hcolon)
        (hvalue.within hread ?_)
      exact passes_skipRestIn_members hvalue hmore hend passes_skipRestIn_nil

end Values

end RealmRegistry.Json
