/-
Reading back the lines of a document.

A line is written with its key or header first, and ends with a line break; a blank line before a
header says nothing.  What a key needs no quotes for ends where a blank, a dot or a bracket comes
(`EndsKey`).

* `scans_path` — the keys of a line;
* `scans_entry`, `scans_header` — what is on a line;
* `readLines_render` — all lines of a text.
-/
import RealmRegistry.Proofs.Toml.Value

namespace RealmRegistry.Toml

open RealmRegistry.Text

/-! ### Keys -/

/-- What follows a key. -/
def EndsKey (rest : List Char) : Prop :=
  ∃ c r, rest = c :: r ∧ (c = ' ' ∨ c = '.' ∨ c = ']')

theorem isWordChar_of_isBare {c : Char} (h : isBare c = true) : isWordChar c = true := by
  simp only [isBare, isWordChar, Bool.or_eq_true] at h ⊢
  rcases h with (h | h) | h <;> simp [h]

/-- A written key begins with a quote or a character that needs none. -/
theorem writeKey_cons (k : String) :
    ∃ c r, writeKey k = c :: r ∧ (c = '"' ∨ isBare c = true) := by
  unfold writeKey
  dsimp only
  split
  next h =>
    rw [Bool.and_eq_true, Bool.not_eq_true', List.isEmpty_eq_false_iff] at h
    obtain ⟨c, r, heq⟩ := List.exists_cons_of_ne_nil h.1
    exact ⟨c, r, heq, .inr (List.all_eq_true.1 h.2 c (heq ▸ List.mem_cons_self))⟩
  next => exact ⟨'"', _, rfl, .inl rfl⟩

theorem begins_of_key {c : Char} (h : c = '"' ∨ isBare c = true) : Begins c ∧ c ≠ '[' := by
  rcases h with rfl | h
  · exact ⟨by decide, by decide⟩
  · refine ⟨begins_of_isWordChar (isWordChar_of_isBare h), ?_⟩
    rintro rfl
    exact absurd h (by decide)

theorem scans_key (k : String) {rest : List Char} (hrest : EndsKey rest) :
    Scans readKey (writeKey k ++ rest) k rest := by
  obtain ⟨e, r, rfl, he⟩ := hrest
  have hend : isBare e = false := by
    rcases he with rfl | rfl | rfl <;> decide
  unfold writeKey
  dsimp only
  split
  next h =>
    rw [Bool.and_eq_true, Bool.not_eq_true', List.isEmpty_eq_false_iff] at h
    obtain ⟨c, t, heq⟩ := List.exists_cons_of_ne_nil h.1
    have hbare : ∀ d ∈ c :: t, isBare d = true := fun d hd =>
      List.all_eq_true.1 h.2 d (heq ▸ hd)
    have ht : ∀ d ∈ t, isBare d = true := fun d hd => hbare d (List.mem_cons_of_mem c hd)
    obtain ⟨hle, hdrop⟩ := dropWhile_run ht hend r
    rw [heq, List.cons_append]
    refine ⟨Nat.lt_succ_of_le hle, ?_⟩
    rw [readKey, if_pos (hbare c List.mem_cons_self), takeWhile_run ht hend, hdrop, ← heq,
      String.ofList_toList]
    rfl
  next =>
    obtain ⟨h, heq⟩ := scans_lineText_basic k.toList (e :: r)
    refine ⟨h, ?_⟩
    show (readLineText (Form.basic.write k.toList ++ e :: r)).map _ = _
    rw [heq]
    show some (Taken.mk (String.ofList k.toList) (e :: r) h) = _
    rw [String.ofList_toList]

/-! ### Paths -/

theorem writePath_below (k : String) (p : Path) :
    writePath (p.below k) = writeKey k ++ '.' :: writePath p := by
  simp [writePath, Path.below]

theorem writePath_cons (p : Path) :
    ∃ c r, writePath p = c :: r ∧ (c = '"' ∨ isBare c = true) := by
  obtain ⟨parents, key⟩ := p
  cases parents with
  | nil => exact writeKey_cons key
  | cons k parents =>
    obtain ⟨c, r, heq, hc⟩ := writeKey_cons k
    rw [show (⟨k :: parents, key⟩ : Path) = Path.below k ⟨parents, key⟩ from rfl,
      writePath_below, heq]
    exact ⟨c, _, rfl, hc⟩

section Keys

variable {s u rest : List Char} {k : String} {p : Path} {c : Char}

theorem scans_keys_last (h : Scans readKey s k u) (hs : skipSpace s = s)
    (hu : skipSpace u = c :: rest) (hc : c ≠ '.') : Scans readKeys s ⟨[], k⟩ (c :: rest) := by
  obtain ⟨hlt, heq⟩ : ∃ h, readKey (skipSpace s) = some ⟨k, u, h⟩ := by rwa [hs]
  have hle : (c :: rest).length ≤ u.length := hu ▸ length_skipSpace_le u
  have hspace : afterSpace u = ⟨c :: rest, hle⟩ := Subtype.ext hu
  have hdot : (afterSpace u).first? '.' = none := by
    rw [hspace]
    exact first?_other hle hc
  refine ⟨Nat.lt_of_le_of_lt hle (Nat.lt_of_lt_of_le hlt (length_skipSpace_le s)), ?_⟩
  rw [readKeys]
  simp only [heq, hdot]
  rw [hspace]
  rfl

theorem scans_keys_more (h : Scans readKey s k ('.' :: u)) (hs : skipSpace s = s)
    (hmore : Scans readKeys u p rest) : Scans readKeys s (p.below k) rest := by
  obtain ⟨hlt, heq⟩ : ∃ h, readKey (skipSpace s) = some ⟨k, '.' :: u, h⟩ := by rwa [hs]
  obtain ⟨hlt', heq'⟩ := hmore
  have hspace : afterSpace ('.' :: u) = .all _ := Subtype.ext (skipSpace_cons (c := '.') (by decide) u)
  have hdot : (afterSpace ('.' :: u)).first? '.' = some ⟨(), u, Nat.lt_succ_self _⟩ := by
    rw [hspace]
    rfl
  refine ⟨Nat.lt_trans hlt' (Nat.lt_of_succ_lt (Nat.lt_of_lt_of_le hlt (length_skipSpace_le s))),
    ?_⟩
  rw [readKeys]
  simp only [heq, hdot, heq']
  rfl

end Keys

@[simp] theorem skipSpace_path (p : Path) (rest : List Char) :
    skipSpace (writePath p ++ rest) = writePath p ++ rest := by
  obtain ⟨c, r, heq, hc⟩ := writePath_cons p
  rw [heq]
  exact skipSpace_cons (begins_of_key hc).1.1 _

/-- The keys of a path are read back, if no dot follows. -/
theorem scans_keys (p : Path) {u rest : List Char} (hends : EndsKey u) {c : Char}
    (hu : skipSpace u = c :: rest) (hc : c ≠ '.') :
    Scans readKeys (writePath p ++ u) p (c :: rest) := by
  obtain ⟨parents, key⟩ := p
  induction parents with
  | nil => exact scans_keys_last (scans_key key hends) (skipSpace_path ⟨[], key⟩ u) hu hc
  | cons k parents ih =>
    have hspace := skipSpace_path (Path.below k ⟨parents, key⟩) u
    rw [writePath_below, List.append_assoc, List.cons_append] at hspace
    show Scans readKeys (writePath (Path.below k ⟨parents, key⟩) ++ u) _ _
    rw [writePath_below, List.append_assoc, List.cons_append]
    exact scans_keys_more (scans_key k ⟨'.', _, rfl, .inr (.inl rfl)⟩) hspace ih

/-- A path with not too many keys is read back. -/
theorem scans_path {p : Path} (hp : p.keys.length ≤ maxDepth) {u rest : List Char}
    (hends : EndsKey u) {c : Char} (hu : skipSpace u = c :: rest) (hc : c ≠ '.') :
    Scans readPath (writePath p ++ u) p (c :: rest) := by
  obtain ⟨h, heq⟩ := scans_keys p hends hu hc
  refine ⟨h, ?_⟩
  rw [readPath, heq]
  exact Option.filter_eq_some_iff.2 ⟨rfl, decide_eq_true hp⟩

/-! ### Lines -/

/-- A line that can be read back: it has a value on a line, brackets and keys not too deep. -/
def Line.Clean : Line → Prop
  | .entry p v => p.keys.length ≤ maxDepth ∧ v.Plain ∧ v.depth ≤ maxDepth
  | .table p => p.keys.length ≤ maxDepth
  | .element p => p.keys.length ≤ maxDepth

theorem scans_entry {p : Path} {v : Toml} (h : (Line.entry p v).Clean) (rest : List Char) :
    Scans (readEntry (readValue maxDepth))
      (writePath p ++ ([' ', '=', ' '] ++ (write v ++ '\n' :: rest))) (p, v) ('\n' :: rest) := by
  obtain ⟨hp, hv, hdepth⟩ := h
  obtain ⟨c, r, hwrite, hbegins, -⟩ := write_cons hv
  obtain ⟨hlt, heq⟩ := scans_path hp (u := ' ' :: '=' :: ' ' :: (write v ++ '\n' :: rest))
    ⟨' ', _, rfl, .inl rfl⟩ (skipSpace_blank _) (c := '=') (by decide)
  have hends : EndsValue ('\n' :: rest) := ⟨'\n', rest, rfl, .inl rfl⟩
  have hvalue := scans_value v maxDepth hv hdepth hends
  -- the value begins behind the blank
  have hspace : skipSpace (' ' :: (write v ++ '\n' :: rest)) = write v ++ '\n' :: rest := by
    rw [skipSpace_blank, hwrite]
    exact skipSpace_cons hbegins.1 _
  obtain ⟨hlt', heq'⟩ : ∃ h, readValue maxDepth (afterSpace (' ' :: (write v ++ '\n' :: rest))).1 =
      some ⟨v, '\n' :: rest, h⟩ := by
    rw [show (afterSpace (' ' :: (write v ++ '\n' :: rest))).1 = _ from hspace]
    exact hvalue
  have hfirst (u : List Char) : (Rest.all ('=' :: u)).first? '=' =
      some ⟨(), u, Nat.lt_succ_self _⟩ := first?_self _
  refine ⟨?_, ?_⟩
  · have hle := (afterSpace (' ' :: (write v ++ '\n' :: rest))).2
    exact Nat.lt_trans (Nat.lt_of_lt_of_le hlt' hle) (Nat.lt_of_succ_lt hlt)
  · show readEntry _ (writePath p ++ ' ' :: '=' :: ' ' :: (write v ++ '\n' :: rest)) = _
    rw [readEntry, heq]
    simp only [hfirst, heq']
    rfl

theorem scans_header {p : Path} (hp : p.keys.length ≤ maxDepth) (line : Path → Line)
    {closing : List Char} (hclosing : ∃ r, closing = ']' :: r) (rest : List Char) :
    Scans (readHeader closing line) (writePath p ++ (closing ++ rest)) (line p) rest := by
  obtain ⟨r, rfl⟩ := hclosing
  obtain ⟨hlt, heq⟩ := scans_path hp (u := ']' :: (r ++ rest)) ⟨']', _, rfl, .inr (.inr rfl)⟩
    (skipSpace_cons (by decide) _) (by decide)
  have hdrop : (']' :: (r ++ rest)).drop (']' :: r).length = rest := by
    rw [← List.cons_append, List.drop_left]
  have hle : rest.length ≤ (']' :: (r ++ rest)).length := by
    simp only [List.length_cons, List.length_append]
    omega
  have hrest : Rest.drop (']' :: r).length (']' :: (r ++ rest)) = ⟨rest, hle⟩ :=
    Subtype.ext hdrop
  have hprefix : (']' :: r).isPrefixOf (']' :: (r ++ rest)) = true :=
    List.isPrefixOf_iff_prefix.2 ⟨rest, rfl⟩
  refine ⟨Nat.lt_of_le_of_lt hle hlt, ?_⟩
  show readHeader (']' :: r) line (writePath p ++ ']' :: (r ++ rest)) = _
  rw [readHeader, heq]
  simp only [if_pos hprefix, hrest]
  rfl

/-- What is on a line, without a blank line before it. -/
theorem scans_line {l : Line} (h : l.Clean) (rest : List Char) :
    ∃ c t, writeLine true l ++ rest = c :: t ∧ Begins c ∧ c ≠ '\uFEFF' ∧
      Scans readLine (c :: t) l ('\n' :: rest) := by
  cases l with
  | entry p v =>
    have hentry := scans_entry h rest
    obtain ⟨c, r, hpath, hc⟩ := writePath_cons p
    have hbegins := begins_of_key hc
    -- A document that opened with the byte order mark would lose it; no key begins with one.
    have hmark : c ≠ '\uFEFF' := by
      rintro rfl
      rcases hc with hc | hc
      · exact absurd hc (by decide)
      · exact absurd hc (by decide)
    have hwrite : writeLine true (.entry p v) ++ rest =
        writePath p ++ ([' ', '=', ' '] ++ (write v ++ '\n' :: rest)) := by
      simp [writeLine]
    rw [hwrite]
    rw [hpath, List.cons_append] at hentry ⊢
    obtain ⟨hlt, heq⟩ := hentry
    refine ⟨c, _, rfl, hbegins.1, hmark, hlt, ?_⟩
    rw [readLine]
    · rw [heq]
      rfl
    · intro r' h'
      exact hbegins.2 (List.cons.inj h').1
    · intro r' h'
      exact hbegins.2 (List.cons.inj h').1
  | table p =>
    have hclosing : ∃ r, [']'] = ']' :: r := ⟨[], rfl⟩
    obtain ⟨hlt, heq⟩ := scans_header h .table hclosing ('\n' :: rest)
    obtain ⟨c, r, hpath, hc⟩ := writePath_cons p
    have hwrite : writeLine true (.table p) ++ rest =
        '[' :: (writePath p ++ ([']'] ++ '\n' :: rest)) := by
      simp [writeLine, gap]
    rw [hwrite]
    refine ⟨'[', _, rfl, by decide, by decide, Nat.lt_succ_of_lt hlt, ?_⟩
    -- A header is read as one of a table only where no second bracket opens it.
    rw [readLine]
    · rw [heq]
      rfl
    · intro r' h'
      rw [hpath] at h'
      exact (begins_of_key hc).2 (List.cons.inj h').1
  | element p =>
    have hclosing : ∃ r, [']', ']'] = ']' :: r := ⟨[']'], rfl⟩
    obtain ⟨hlt, heq⟩ := scans_header h .element hclosing ('\n' :: rest)
    have hwrite : writeLine true (.element p) ++ rest =
        '[' :: '[' :: (writePath p ++ ([']', ']'] ++ '\n' :: rest)) := by
      simp [writeLine, gap]
    rw [hwrite]
    refine ⟨'[', _, rfl, by decide, by decide, Nat.lt_succ_of_lt (Nat.lt_succ_of_lt hlt), ?_⟩
    rw [readLine, heq]
    rfl

/-! ### Texts -/

theorem afterLine?_newline (r : List Char) : ∃ h, afterLine? ('\n' :: r) = some ⟨r, h⟩ := by
  obtain ⟨hle, hnext⟩ := next_comment (skipSpace_cons (c := '\n') (by decide) r) (by decide)
  refine ⟨.inr (Nat.lt_succ_self _), ?_⟩
  rw [afterLine?, hnext]
  rfl

theorem afterLine?_begins {c : Char} (hc : Begins c) (r : List Char) :
    afterLine? (c :: r) = none := by
  obtain ⟨hle, hnext⟩ := next_comment (skipSpace_cons hc.1 r) hc.2.1
  rw [afterLine?, hnext]
  simp only [afterBreak?_none hc.2.2.1 hc.2.2.2]
  rfl

theorem afterSpace_cons {c : Char} (hc : isSpace c = false) (r : List Char) :
    afterSpace (c :: r) = .all (c :: r) :=
  Subtype.ext (skipSpace_cons hc r)

@[simp] theorem readLines_nil : readLines [] = some [] := by
  rw [readLines]
  rfl

/-- A blank line says nothing, -/
@[simp] theorem readLines_blank (s : List Char) : readLines ('\n' :: s) = readLines s := by
  obtain ⟨h, heq⟩ := afterLine?_newline s
  rw [readLines, afterSpace_cons (by decide)]
  simp only [Rest.all, heq]

/-- and another line is read with what follows its break. -/
theorem readLines_line {c : Char} {t s : List Char} {l : Line} (hc : Begins c)
    (h : Scans readLine (c :: t) l ('\n' :: s)) :
    readLines (c :: t) = (readLines s).map (l :: ·) := by
  obtain ⟨hlt, heq⟩ := h
  obtain ⟨h', heq'⟩ := afterLine?_newline s
  rw [readLines, afterSpace_cons hc.1]
  simp only [Rest.all, afterLine?_begins hc, heq, heq']

theorem writeLine_false (l : Line) :
    writeLine false l = writeLine true l ∨ writeLine false l = '\n' :: writeLine true l := by
  cases l with
  | entry p v => exact .inl rfl
  | table p => exact .inr rfl
  | element p => exact .inr rfl

/-- Clean lines are read back from their text. -/
theorem readLines_render {ls : List Line} (h : ∀ l ∈ ls, l.Clean) (first : Bool) :
    readLines (render first ls) = some ls := by
  induction ls generalizing first with
  | nil => exact readLines_nil
  | cons l r ih =>
    have hr := ih (fun l' hl' => h l' (List.mem_cons_of_mem l hl')) false
    obtain ⟨c, t, htext, hc, -, hline⟩ := scans_line (h l List.mem_cons_self) (render false r)
    have hfirst : readLines (writeLine true l ++ render false r) = some (l :: r) := by
      rw [htext, readLines_line hc hline, hr]
      rfl
    rw [render]
    cases first with
    | true => exact hfirst
    | false =>
      rcases writeLine_false l with heq | heq
      · rw [heq, hfirst]
      · rw [heq, List.cons_append, readLines_blank, hfirst]

/-- A written document has no mark of the byte order. -/
theorem skipMark_render {ls : List Line} (h : ∀ l ∈ ls, l.Clean) :
    skipMark (render true ls) = render true ls := by
  cases ls with
  | nil => rfl
  | cons l r =>
    obtain ⟨c, t, htext, -, hmark, -⟩ := scans_line (h l List.mem_cons_self) (render false r)
    rw [render, htext, skipMark]
    intro t' h'
    exact hmark (List.cons.inj h').1

theorem parse_render {ls : List Line} (h : ∀ l ∈ ls, l.Clean) :
    parse (render true ls) = ofLines? ls := by
  rw [parse, skipMark_render h, readLines_render h]
  rfl

end RealmRegistry.Toml
