/-
Reading back a written TOML string, in whichever form it was written.

Over several lines a string may hold its own quotes, as long as there are no three in a row: then
the text up to the closing ones is all quotes, at most two of them, or it has another character
early enough (`closing?_of_fewQuotes`).

* `scans_multiBasic`, `scans_multiLiteral` — the forms over several lines;
* `scans_quote` — a string in the form that was chosen for it.
-/
import RealmRegistry.Proofs.Toml.Escape

namespace RealmRegistry.Toml

open RealmRegistry.Text

/-! ### Quotes in a row -/

/-- A text begins with at most `n` quotes. -/
def FewQuotes (q : Char) (n : Nat) (s : List Char) : Prop :=
  ∃ j t, j ≤ n ∧ t.head? ≠ some q ∧ s = List.replicate j q ++ t

theorem fewQuotes_other {q : Char} {n : Nat} {s : List Char} (h : s.head? ≠ some q) :
    FewQuotes q n s :=
  ⟨0, s, Nat.zero_le n, h, rfl⟩

theorem FewQuotes.cons {q : Char} {n : Nat} {s : List Char} (h : FewQuotes q n s) :
    FewQuotes q (n + 1) (q :: s) := by
  obtain ⟨j, t, hj, ht, rfl⟩ := h
  exact ⟨j + 1, t, Nat.succ_le_succ hj, ht, rfl⟩

theorem FewQuotes.mono {q : Char} {n m : Nat} {s : List Char} (h : FewQuotes q n s) (hle : n ≤ m) :
    FewQuotes q m s := by
  obtain ⟨j, t, hj, ht⟩ := h
  exact ⟨j, t, Nat.le_trans hj hle, ht⟩

/-- A text without three quotes in a row, of which `run` were before it, begins with few. -/
theorem fewQuotes_of_not_hasRun {q : Char} {run : Nat} {s : List Char} (hrun : run ≤ 2)
    (h : hasRun q 3 run s = false) : FewQuotes q (2 - run) s := by
  induction s generalizing run with
  | nil => exact fewQuotes_other (by simp)
  | cons c s ih =>
    by_cases hc : c = q
    · rw [hasRun, if_pos hc, Bool.or_eq_false_iff, decide_eq_false_iff_not] at h
      have hs := (ih (show run + 1 ≤ 2 by omega) h.2).cons
      rw [show 2 - (run + 1) + 1 = 2 - run by omega] at hs
      rwa [hc]
    · exact fewQuotes_other (by simpa using hc)

theorem head?_escapeChar (multi : Bool) {c : Char} (hc : c ≠ '"') (s : List Char) :
    ∃ d, (escapeChar multi c ++ s).head? = some d ∧ d ≠ '"' := by
  rcases escapeChar_cases multi hc with ⟨heq, -, -⟩ | ⟨e, heq, -⟩ | ⟨-, -, heq⟩
  · rw [heq]
    exact ⟨c, rfl, hc⟩
  · rw [heq]
    exact ⟨'\\', rfl, by decide⟩
  · rw [heq]
    exact ⟨'\n', rfl, by decide⟩

/-- Of a text between double quotes at most two quotes in a row have no backslash, -/
theorem fewQuotes_escapeText {run : Nat} (hrun : run ≤ 2) (s : List Char) :
    FewQuotes '"' (2 - run) (escapeText true 2 run s) := by
  induction s generalizing run with
  | nil => exact fewQuotes_other (by simp [escapeText])
  | cons c s ih =>
    by_cases hc : c = '"'
    · rw [escapeText, if_pos hc]
      by_cases hfree : run < 2
      · rw [if_pos hfree]
        have hs := (ih (show run + 1 ≤ 2 by omega)).cons
        rwa [show 2 - (run + 1) + 1 = 2 - run by omega] at hs
      · rw [if_neg hfree]
        exact fewQuotes_other (by simp)
    · obtain ⟨d, hd, hne⟩ := head?_escapeChar true hc (escapeText true 2 0 s)
      rw [escapeText, if_neg hc]
      refine fewQuotes_other ?_
      rw [hd]
      exact fun heq => hne (Option.some.inj heq)

/-- and where nothing else is written, nothing else is in the text. -/
theorem eq_quotes_of_escapeText {run j : Nat} {s : List Char}
    (h : escapeText true 2 run s = List.replicate j '"') : s = List.replicate j '"' := by
  induction s generalizing run j with
  | nil =>
    rw [escapeText] at h
    exact h
  | cons c s ih =>
    by_cases hc : c = '"'
    · rw [escapeText, if_pos hc] at h
      cases j with
      | zero => split at h <;> cases h
      | succ j =>
        rw [List.replicate_succ] at h
        split at h
        · rw [ih (List.cons.inj h).2, hc, List.replicate_succ]
        · exact absurd (List.cons.inj h).1 (by decide)
    · obtain ⟨d, hd, hne⟩ := head?_escapeChar true hc (escapeText true 2 0 s)
      rw [escapeText, if_neg hc] at h
      rw [h] at hd
      exact absurd (List.eq_of_mem_replicate (List.mem_of_mem_head? hd)) hne

/-- The quotes before three closing ones belong to the text, if there are at most two. -/
theorem closing?_quotes {q : Char} {j : Nat} {rest : List Char} (hj : j ≤ 2)
    (hrest : rest.head? ≠ some q) :
    ∃ h, closing? q (List.replicate j q ++ q :: q :: q :: rest) =
      some ⟨List.replicate j q, rest, h⟩ := by
  have hends : ∀ n, takeQuotes q n rest = ([], .all rest) := by
    intro n
    cases n with
    | zero => rfl
    | succ n =>
      cases rest with
      | nil => rfl
      | cons d r =>
        have hd : d ≠ q := fun heq => hrest (congrArg some heq)
        rw [takeQuotes, if_neg hd]
  refine ⟨by simp only [List.length_append, List.length_cons]; omega, ?_⟩
  rcases j with _ | _ | _ | j
  · simp [closing?, hends]
    rfl
  · simp [closing?, takeQuotes, hends]
    rfl
  · simp [closing?, takeQuotes]
    rfl
  · omega

/-- Another character among the first three keeps a string from being closed. -/
theorem closing?_none {q c : Char} {j : Nat} (hj : j ≤ 2) (hc : c ≠ q) (t : List Char) :
    closing? q (List.replicate j q ++ c :: t) = none := by
  rcases j with _ | _ | _ | j
  · cases t with
    | nil => rfl
    | cons a t => cases t <;> simp [closing?, hc]
  · cases t <;> simp [closing?, hc]
  · simp [closing?, hc]
  · omega

/-- What is left of a string before three closing quotes is all quotes, which belong to it, or the
string goes on. -/
theorem closing?_of_fewQuotes {q : Char} {s rest : List Char} (h : FewQuotes q 2 s)
    (hrest : rest.head? ≠ some q) :
    (∃ h, closing? q (s ++ q :: q :: q :: rest) = some ⟨s, rest, h⟩) ∧
        (∃ j, s = List.replicate j q) ∨
      closing? q (s ++ q :: q :: q :: rest) = none := by
  obtain ⟨j, t, hj, ht, rfl⟩ := h
  cases t with
  | nil =>
    rw [List.append_nil]
    exact .inl ⟨closing?_quotes hj hrest, j, rfl⟩
  | cons c t =>
    rw [List.append_assoc]
    exact .inr (closing?_none hj (fun heq => ht (congrArg some heq)) _)

/-! ### Strings over several lines -/

section MultiBasic

variable {s rest cs : List Char} {c : Char}

theorem scans_multiBasic_close {q : List Char} (h : ∃ h, closing? '"' s = some ⟨q, rest, h⟩) :
    Scans readMultiBasic s q rest := by
  obtain ⟨hlt, heq⟩ := h
  refine ⟨hlt, ?_⟩
  rw [readMultiBasic.eq_def, heq]

theorem scans_multiBasic_plain (hclose : closing? '"' (c :: s) = none) (hb : c ≠ '\\')
    (hn : c ≠ '\n') (hp : isPlain c = true) (h : Scans readMultiBasic s cs rest) :
    Scans readMultiBasic (c :: s) (c :: cs) rest := by
  obtain ⟨hlt, heq⟩ := h
  refine ⟨Nat.lt_succ_of_lt hlt, ?_⟩
  rw [readMultiBasic, hclose]
  simp only [if_neg hb, afterBreak?_none hn (ne_return_of_isPlain hp), if_pos hp, heq]
  rfl

theorem scans_multiBasic_break (h : Scans readMultiBasic s cs rest) :
    Scans readMultiBasic ('\n' :: s) ('\n' :: cs) rest := by
  obtain ⟨hlt, heq⟩ := h
  obtain ⟨hlt', heq'⟩ := afterBreak?_newline s
  have hclose : closing? '"' ('\n' :: s) = none := closing?_none (Nat.zero_le 2) (by decide) s
  have hb : '\n' ≠ '\\' := by decide
  refine ⟨Nat.lt_succ_of_lt hlt, ?_⟩
  rw [readMultiBasic, hclose]
  simp only [if_neg hb, heq', heq]
  rfl

theorem scans_multiBasic_escape {e : List Char} (he : Scans readEscape e c s)
    (hend : afterLineEnd? e = none) (h : Scans readMultiBasic s cs rest) :
    Scans readMultiBasic ('\\' :: e) (c :: cs) rest := by
  obtain ⟨hlt, heq⟩ := h
  obtain ⟨hlt', heq'⟩ := he
  have hclose : closing? '"' ('\\' :: e) = none := closing?_none (Nat.zero_le 2) (by decide) e
  refine ⟨by simp only [List.length_cons]; omega, ?_⟩
  rw [readMultiBasic, hclose]
  simp only [if_pos, hend, heq', heq]
  rfl

end MultiBasic

/-- Between three double quotes at most two in a row go without a backslash. -/
theorem scans_multiBasic {run : Nat} (hrun : run ≤ 2) (s : List Char) {rest : List Char}
    (hrest : rest.head? ≠ some '"') :
    Scans readMultiBasic (escapeText true 2 run s ++ '"' :: '"' :: '"' :: rest) s rest := by
  induction s generalizing run with
  | nil =>
    obtain ⟨h, heq⟩ := closing?_quotes (Nat.zero_le 2) hrest
    exact scans_multiBasic_close ⟨h, heq⟩
  | cons c s ih =>
    have hfew := (fewQuotes_escapeText hrun (c :: s)).mono (Nat.sub_le 2 run)
    rcases closing?_of_fewQuotes hfew hrest with ⟨hclose, j, hquotes⟩ | hclose
    · -- nothing but quotes is left, and they are those of the text
      rw [hquotes, ← eq_quotes_of_escapeText hquotes] at hclose
      rw [hquotes, ← eq_quotes_of_escapeText hquotes]
      exact scans_multiBasic_close hclose
    by_cases hc : c = '"'
    · subst hc
      rw [escapeText, if_pos rfl] at hclose ⊢
      by_cases hfree : run < 2
      · rw [if_pos hfree] at hclose ⊢
        exact scans_multiBasic_plain hclose (by decide) (by decide) (by decide)
          (ih (show run + 1 ≤ 2 by omega))
      · have hquote := escapes_letter (l := '"') rfl (by decide) (by decide) (by decide)
        rw [if_neg hfree]
        exact scans_multiBasic_escape (hquote.1 _) (hquote.2 _) (ih (Nat.zero_le 2))
    · have hnext := ih (show 0 ≤ 2 by decide)
      rw [escapeText, if_neg hc, List.append_assoc] at hclose ⊢
      rcases escapeChar_cases true hc with ⟨heq, hp, hb⟩ | ⟨e, heq, he⟩ | ⟨-, rfl, heq⟩
      · rw [heq] at hclose ⊢
        by_cases hn : c = '\n'
        · rw [hn] at hp
          exact absurd hp (by decide)
        · exact scans_multiBasic_plain hclose hb hn hp hnext
      · rw [heq]
        exact scans_multiBasic_escape (he.1 _) (he.2 _) hnext
      · rw [heq]
        exact scans_multiBasic_break hnext

/-- Between three single quotes a text stands as it is, if it has no three of them in a row. -/
theorem scans_multiLiteral {run : Nat} (hrun : run ≤ 2) {s rest : List Char}
    (hs : ∀ c ∈ s, isControl c = false) (hquotes : hasRun '\'' 3 run s = false)
    (hrest : rest.head? ≠ some '\'') :
    Scans readMultiLiteral (s ++ '\'' :: '\'' :: '\'' :: rest) s rest := by
  induction s generalizing run with
  | nil =>
    obtain ⟨h, heq⟩ : ∃ h, closing? '\'' ('\'' :: '\'' :: '\'' :: rest) = some ⟨[], rest, h⟩ :=
      closing?_quotes (Nat.zero_le 2) hrest
    refine ⟨h, ?_⟩
    show readMultiLiteral ('\'' :: '\'' :: '\'' :: rest) = _
    rw [readMultiLiteral.eq_def, heq]
  | cons c s ih =>
    have hfew := (fewQuotes_of_not_hasRun hrun hquotes).mono (Nat.sub_le 2 run)
    rcases closing?_of_fewQuotes hfew hrest with ⟨⟨h, hclose⟩, -⟩ | hclose
    · refine ⟨h, ?_⟩
      rw [readMultiLiteral.eq_def, hclose]
    -- whatever the character is, few quotes were in a row before the next one
    have hnext : Scans readMultiLiteral (s ++ '\'' :: '\'' :: '\'' :: rest) s rest := by
      have hs' := fun d hd => hs d (List.mem_cons_of_mem c hd)
      rw [hasRun] at hquotes
      split at hquotes
      · rw [Bool.or_eq_false_iff, decide_eq_false_iff_not] at hquotes
        exact ih (show run + 1 ≤ 2 by omega) hs' hquotes.2
      · exact ih (show 0 ≤ 2 by decide) hs' hquotes
    obtain ⟨hlt, heq⟩ := hnext
    rw [List.cons_append] at hclose ⊢
    refine ⟨Nat.lt_succ_of_lt hlt, ?_⟩
    rw [readMultiLiteral, hclose]
    by_cases hn : c = '\n'
    · subst hn
      obtain ⟨hlt', heq'⟩ := afterBreak?_newline (s ++ '\'' :: '\'' :: '\'' :: rest)
      simp only [heq', heq]
      rfl
    · have hp := isPlain_of_not_isControl (hs c List.mem_cons_self) hn
      simp only [afterBreak?_none hn (ne_return_of_isPlain hp), if_pos hp, heq]
      rfl

/-! ### Forms -/

/-- What follows a string is no quote, so it cannot be taken for one of the string's. -/
def EndsText (rest : List Char) : Prop :=
  rest.head? ≠ some '"' ∧ rest.head? ≠ some '\''

@[simp] theorem skipBreak_break (s : List Char) : (skipBreak ('\n' :: s)).1 = s := by
  obtain ⟨h, heq⟩ := afterBreak?_newline s
  rw [skipBreak, heq]
  rfl

theorem skipBreak_other {c : Char} (hn : c ≠ '\n') (hr : c ≠ '\r') (s : List Char) :
    (skipBreak (c :: s)).1 = c :: s := by
  rw [skipBreak, afterBreak?_none hn hr]
  rfl

theorem afterOpening?_quotes (q : Char) {s r : List Char} (hr : (skipBreak s).1 = r) :
    ∃ h, afterOpening? q (q :: q :: q :: s) = some ⟨r, h⟩ := by
  subst hr
  exact ⟨_, if_pos ⟨rfl, rfl, rfl⟩⟩

theorem afterOpening?_first {q c : Char} (hc : c ≠ q) (s : List Char) :
    afterOpening? q (c :: s) = none := by
  rcases s with _ | ⟨a, _ | ⟨b, s⟩⟩
  · rfl
  · rfl
  · exact if_neg fun h => hc h.1

theorem afterOpening?_second {q c : Char} (hc : c ≠ q) (s : List Char) :
    afterOpening? q (q :: c :: s) = none := by
  cases s with
  | nil => rfl
  | cons b s => exact if_neg fun h => hc h.2.1

theorem afterOpening?_third {q : Char} {s : List Char} (hs : s.head? ≠ some q) :
    afterOpening? q (q :: q :: s) = none := by
  cases s with
  | nil => rfl
  | cons b s => exact if_neg fun h => hs (congrArg some h.2.2)

/-- A string with one quote on each side: no quote comes first in it, or it is empty. -/
theorem afterOpening?_line {q : Char} {s rest : List Char} (hs : s.head? ≠ some q)
    (hrest : rest.head? ≠ some q) : afterOpening? q (q :: s ++ q :: rest) = none := by
  cases s with
  | nil => exact afterOpening?_third hrest
  | cons c s => exact afterOpening?_second (fun heq => hs (congrArg some heq)) _

theorem head?_escapeText_line (s : List Char) : (escapeText false 0 0 s).head? ≠ some '"' := by
  cases s with
  | nil => simp [escapeText]
  | cons c s =>
    rw [escapeText]
    split
    · rw [if_neg (Nat.lt_irrefl 0)]
      simp
    next hc =>
      obtain ⟨d, hd, hne⟩ := head?_escapeChar false hc (escapeText false 0 0 s)
      rw [hd]
      exact fun heq => hne (Option.some.inj heq)

theorem scans_lineText_basic (s rest : List Char) :
    Scans readLineText (Form.basic.write s ++ rest) s rest := by
  obtain ⟨h, heq⟩ := scans_basic s rest
  rw [Form.write, List.cons_append, List.cons_append, List.append_assoc]
  refine ⟨Nat.lt_succ_of_lt h, ?_⟩
  show (readBasic (escapeText false 0 0 s ++ '"' :: rest)).map _ = _
  rw [heq]
  rfl

theorem scans_chars_basic {rest : List Char} (hrest : EndsText rest) (s : List Char) :
    Scans readChars (Form.basic.write s ++ rest) s rest := by
  obtain ⟨h, heq⟩ := scans_lineText_basic s rest
  refine ⟨h, ?_⟩
  have hdouble : afterOpening? '"' (Form.basic.write s ++ rest) = none := by
    rw [Form.write, List.append_assoc]
    exact afterOpening?_line (head?_escapeText_line s) hrest.1
  have hsingle : afterOpening? '\'' (Form.basic.write s ++ rest) = none :=
    afterOpening?_first (by decide) _
  rw [readChars, hdouble]
  simp only [hsingle, heq]

theorem scans_chars_literal {s rest : List Char} (hrest : EndsText rest)
    (hs : ∀ c ∈ s, c ≠ '\'' ∧ isPlain c = true) :
    Scans readChars (Form.literal.write s ++ rest) s rest := by
  obtain ⟨h, heq⟩ := scans_literal rest hs
  have hdouble : afterOpening? '"' (Form.literal.write s ++ rest) = none :=
    afterOpening?_first (by decide) _
  have hsingle : afterOpening? '\'' (Form.literal.write s ++ rest) = none := by
    rw [Form.write, List.append_assoc]
    exact afterOpening?_line (fun hq => (hs _ (List.mem_of_mem_head? hq)).1 rfl) hrest.2
  have hline : Scans readLineText (Form.literal.write s ++ rest) s rest := by
    rw [Form.write, List.cons_append, List.cons_append, List.append_assoc]
    refine ⟨Nat.lt_succ_of_lt h, ?_⟩
    show (readLiteral (s ++ '\'' :: rest)).map _ = _
    rw [heq]
    rfl
  obtain ⟨h', heq'⟩ := hline
  refine ⟨h', ?_⟩
  rw [readChars, hdouble]
  simp only [hsingle, heq']

/-- Behind the opening quotes of a string over several lines its text begins, if only a text with
line breaks begins with one. -/
theorem skipBreak_opening {s body : List Char}
    (hs : '\n' ∉ s → ∀ c ∈ body.head?, c ≠ '\n' ∧ c ≠ '\r') :
    (skipBreak (openingBreak s ++ body)).1 = body := by
  by_cases hlines : '\n' ∈ s
  · rw [openingBreak, if_pos (List.contains_iff_mem.2 hlines)]
    exact skipBreak_break body
  · rw [openingBreak, if_neg (by simpa using hlines), List.nil_append]
    cases body with
    | nil => rfl
    | cons c t =>
      obtain ⟨hn, hr⟩ := hs hlines c rfl
      exact skipBreak_other hn hr t

theorem head?_escapeText_lines {s : List Char} (hs : '\n' ∉ s) (r : List Char) :
    ∀ c ∈ (escapeText true 2 0 s ++ '"' :: r).head?, c ≠ '\n' ∧ c ≠ '\r' := by
  have hsome {t : List Char} {d : Char} (hn : d ≠ '\n') (hr : d ≠ '\r') :
      ∀ c ∈ (d :: t).head?, c ≠ '\n' ∧ c ≠ '\r' := by
    intro c hc
    rw [List.head?_cons, Option.mem_some_iff] at hc
    rw [← hc]
    exact ⟨hn, hr⟩
  cases s with
  | nil => exact hsome (by decide) (by decide)
  | cons d s =>
    by_cases hd : d = '"'
    · rw [escapeText, if_pos hd, if_pos (by decide)]
      exact hsome (by decide) (by decide)
    · rw [escapeText, if_neg hd, List.append_assoc]
      rcases escapeChar_cases true hd with ⟨heq, hp, -⟩ | ⟨e, heq, -⟩ | ⟨-, hn, -⟩
      · rw [heq]
        have hn : d ≠ '\n' := fun h => hs (h ▸ List.mem_cons_self)
        exact hsome hn (ne_return_of_isPlain hp)
      · rw [heq]
        exact hsome (by decide) (by decide)
      · exact absurd (hn ▸ List.mem_cons_self) hs

theorem scans_chars_multiBasic {rest : List Char} (hrest : EndsText rest) (s : List Char) :
    Scans readChars (Form.multiBasic.write s ++ rest) s rest := by
  obtain ⟨h, heq⟩ := scans_multiBasic (Nat.zero_le 2) s hrest.1
  have hskip := skipBreak_opening (s := s) fun hs =>
    head?_escapeText_lines hs ('"' :: '"' :: rest)
  obtain ⟨h', hopen⟩ := afterOpening?_quotes '"' hskip
  have htext : Form.multiBasic.write s ++ rest =
      '"' :: '"' :: '"' :: (openingBreak s ++ (escapeText true 2 0 s ++ '"' :: '"' :: '"' :: rest)) := by
    simp [Form.write]
  rw [htext]
  refine ⟨Nat.lt_of_lt_of_le h h', ?_⟩
  rw [readChars, hopen]
  simp only [heq]
  rfl

theorem scans_chars_multiLiteral {s rest : List Char} (hrest : EndsText rest)
    (hs : ∀ c ∈ s, isControl c = false) (hquotes : hasRun '\'' 3 0 s = false) :
    Scans readChars (Form.multiLiteral.write s ++ rest) s rest := by
  obtain ⟨h, heq⟩ := scans_multiLiteral (Nat.zero_le 2) hs hquotes hrest.2
  have hhead : '\n' ∉ s →
      ∀ c ∈ (s ++ '\'' :: '\'' :: '\'' :: rest).head?, c ≠ '\n' ∧ c ≠ '\r' := by
    intro hlines c hc
    cases s with
    | nil =>
      rw [← Option.mem_some_iff.1 hc]
      exact ⟨by decide, by decide⟩
    | cons d s =>
      have hd : d = c := Option.mem_some_iff.1 hc
      have hn : c ≠ '\n' := fun h => hlines (h ▸ hd ▸ List.mem_cons_self)
      exact ⟨hn, ne_return_of_isPlain
        (isPlain_of_not_isControl (hs c (hd ▸ List.mem_cons_self)) hn)⟩
  obtain ⟨h', hopen⟩ := afterOpening?_quotes '\'' (skipBreak_opening hhead)
  have htext : Form.multiLiteral.write s ++ rest =
      '\'' :: '\'' :: '\'' :: (openingBreak s ++ (s ++ '\'' :: '\'' :: '\'' :: rest)) := by
    simp [Form.write]
  rw [htext]
  refine ⟨Nat.lt_of_lt_of_le h h', ?_⟩
  rw [readChars, afterOpening?_first (by decide), hopen]
  simp only [heq]
  rfl

/-- A text is read back from the form that was chosen for it. -/
theorem scans_chars {rest : List Char} (hrest : EndsText rest) (s : List Char) :
    Scans readChars ((Form.of s).write s ++ rest) s rest := by
  have hcontrols : s.any isControl = false → ∀ c ∈ s, isControl c = false := by
    intro h c hc
    exact Bool.eq_false_iff.2 (List.any_eq_false.1 h c hc)
  unfold Form.of
  dsimp only
  split
  · exact scans_chars_basic hrest s
  split
  next h =>
    -- neither a control character nor a quote nor a line break is in the text
    simp only [Bool.and_eq_true, Bool.not_eq_true'] at h
    refine scans_chars_literal hrest fun c hc => ⟨?_, ?_⟩
    · rintro rfl
      exact absurd (List.contains_iff_mem.2 hc) (by rw [h.1.2]; exact Bool.false_ne_true)
    · refine isPlain_of_not_isControl (hcontrols h.1.1 c hc) ?_
      rintro rfl
      exact absurd (List.contains_iff_mem.2 hc) (by rw [h.2]; exact Bool.false_ne_true)
  split
  · exact scans_chars_multiBasic hrest s
  split
  next h =>
    simp only [Bool.and_eq_true, Bool.not_eq_true'] at h
    exact scans_chars_multiLiteral hrest (hcontrols h.1) h.2
  split
  · exact scans_chars_multiBasic hrest s
  · exact scans_chars_basic hrest s

/-- A string is read back, if no quote follows it. -/
theorem scans_quote {rest : List Char} (hrest : EndsText rest) (s : String) :
    Scans readText (quote s ++ rest) s rest := by
  obtain ⟨h, heq⟩ := scans_chars hrest s.toList
  show Scans readText ((Form.of s.toList).write s.toList ++ rest) s rest
  refine ⟨h, ?_⟩
  rw [readText, heq]
  show some (Taken.mk (String.ofList s.toList) rest h) = _
  rw [String.ofList_toList]

/-- A written string begins with a quote. -/
theorem quote_cons (s : String) : ∃ c r, quote s = c :: r ∧ (c = '"' ∨ c = '\'') := by
  unfold quote
  cases Form.of s.toList with
  | basic => exact ⟨'"', _, rfl, .inl rfl⟩
  | literal => exact ⟨'\'', _, rfl, .inr rfl⟩
  | multiBasic => exact ⟨'"', _, rfl, .inl rfl⟩
  | multiLiteral => exact ⟨'\'', _, rfl, .inr rfl⟩

end RealmRegistry.Toml
