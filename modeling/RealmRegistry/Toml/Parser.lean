/-
Reading a TOML document.

A document is read into lines first, and the lines into tables (`ofLines?`).  What is no document
is refused without a reason.

* `readValue` — a value with at most so many levels of brackets;
* `readLines` — all lines;
* `parse` — the members of the outermost table.
-/
import RealmRegistry.Toml.Text
import RealmRegistry.Toml.Tree
import RealmRegistry.Toml.Word

namespace RealmRegistry.Toml

open RealmRegistry.Text

/-! ### Keys -/

/-- Reads a key without quotes or between them. -/
def readKey : Scan String := fun s =>
  match s with
  | [] => none
  | c :: r =>
    if isBare c then
      some (.upTo (String.ofList (c :: r.takeWhile isBare)) c (.dropWhile isBare r))
    else (readLineText (c :: r)).map fun t => t.map String.ofList

/-- Reads keys with dots between them, and the blanks around each. -/
def readKeys (s : List Char) : Option (Taken Path s) :=
  match readKey (skipSpace s) with
  | none => none
  | some k =>
    match (afterSpace k.rest).first? '.' with
    | some t =>
      (readKeys t.rest).map fun u =>
        (k.next (t.next (u.map (Path.below k.value)))).within (length_skipSpace_le s)
    | none =>
      some (((k.leaving (afterSpace k.rest)).map (Path.mk [])).within (length_skipSpace_le s))
termination_by s.length
decreasing_by exact ((k.next t).within (length_skipSpace_le s)).shorter

/-- The number of levels that keys and brackets may have. -/
def maxDepth : Nat := 79

/-- Reads a path of keys. -/
def readPath : Scan Path := fun s =>
  (readKeys s).filter fun t => t.value.keys.length ≤ maxDepth

/-! ### Between lines -/

/-- What is behind a comment, if there is one. -/
def skipComment (s : List Char) : Rest s :=
  match s with
  | '#' :: r => (Rest.dropWhile isPlain r).behind '#'
  | s => .all s

/-- What is behind the end of a line: blanks, perhaps a comment, and a line break or the end of
the text. -/
def afterLine? (s : List Char) : Option { r : List Char // r = [] ∨ r.length < s.length } :=
  match (afterSpace s).next (skipComment (skipSpace s)) with
  | ⟨[], _⟩ => some ⟨[], .inl rfl⟩
  | ⟨c :: r, h⟩ => (afterBreak? (c :: r)).map fun t => ⟨t.rest, .inr (t.within h).shorter⟩

/-- What is behind blanks, comments and line breaks. -/
def skipFiller (s : List Char) : Rest s :=
  match (afterSpace s).next (skipComment (skipSpace s)) with
  | ⟨u, h⟩ =>
    match afterBreak? u with
    | some t => (t.left.next (skipFiller t.rest)).within h
    | none => afterSpace s
termination_by s.length
decreasing_by exact (t.within h).shorter

/-! ### Arrays and inline tables -/

/-- Reads the elements of an array after its opening bracket and up to its closing one; a comma
may stand behind the last. -/
def readElements (item : Scan Toml) (s : List Char) : Option (Taken (List Toml) s) :=
  match (skipFiller s).first? ']' with
  | some t => some (t.map fun _ => [])
  | none =>
    match item (skipFiller s).1 with
    | none => none
    | some v =>
      match (skipFiller v.rest).first? ']' with
      | some t => some ((skipFiller s).read ((v.leaving t.left).map ([·])))
      | none =>
        match (skipFiller v.rest).first? ',' with
        | some t =>
          (readElements item t.rest).map fun u =>
            (skipFiller s).read (v.next (t.next (u.map (v.value :: ·))))
        | none => none
termination_by s.length
decreasing_by exact ((skipFiller s).read (v.next t)).shorter

/-- Reads a key and its value. -/
def readEntry (value : Scan Toml) : Scan (Path × Toml) := fun s =>
  match readPath s with
  | none => none
  | some p =>
    match (Rest.all p.rest).first? '=' with
    | none => none
    | some t =>
      (value (afterSpace t.rest).1).map fun v =>
        p.next (t.next ((afterSpace t.rest).read (v.map (p.value, ·))))

/-- Reads the entries of an inline table after its opening bracket and up to its closing one. -/
def readEntries (value : Scan Toml) (s : List Char) : Option (Taken (List (Path × Toml)) s) :=
  match readEntry value s with
  | none => none
  | some e =>
    match (afterSpace e.rest).first? '}' with
    | some t => some ((e.leaving t.left).map ([·]))
    | none =>
      match (afterSpace e.rest).first? ',' with
      | some t =>
        (readEntries value t.rest).map fun u => e.next (t.next (u.map (e.value :: ·)))
      | none => none
termination_by s.length
decreasing_by exact (e.next t).shorter

/-- Reads an inline table after its opening bracket. -/
def readTable (value : Scan Toml) : Scan Toml := fun s =>
  match (afterSpace s).first? '}' with
  | some t => some (t.map fun _ => .table [])
  | none =>
    match readEntries value s with
    | none => none
    | some t => (inlineTable? t.value).map fun v => t.map fun _ => v

/-! ### Values -/

/-- The time that stands behind a date and a blank, and what is behind it. -/
def clockBehind? (word s : List Char) : Option (List Char × Rest s) :=
  match s with
  | ' ' :: r =>
    let clock := r.takeWhile isWordChar
    if Word.isDate word ∧ Word.isClock clock then
      some (clock, (Rest.dropWhile isWordChar r).behind ' ')
    else none
  | _ => none

/-- Reads a value that is a word, or a date and a time with a blank between them. -/
def readWord : Scan Toml := fun s =>
  match s with
  | [] => none
  | c :: r =>
    if isWordChar c then
      let word := c :: r.takeWhile isWordChar
      let t := Rest.dropWhile isWordChar r
      match clockBehind? word t.1 with
      | some (clock, u) =>
        some (.upTo (.moment (String.ofList (word ++ ' ' :: clock))) c (t.next u))
      | none => (ofWord? word).map fun v => .upTo v c t
    else none

/-- Reads a value, given readers for what follows an opening bracket. -/
def readWith (list table : Scan Toml) : Scan Toml := fun s =>
  match s with
  | [] => none
  | c :: r =>
    if c = '"' ∨ c = '\'' then (readText (c :: r)).map fun t => t.map .text
    else if c = '[' then (list r).map (Taken.behind c)
    else if c = '{' then (table r).map (Taken.behind c)
    else readWord (c :: r)

/-- Reads a value whose brackets are at most `depth` deep. -/
def readValue : (depth : Nat) → Scan Toml
  | 0 => readWith (fun _ => none) fun _ => none
  | depth + 1 =>
    readWith (fun s => (readElements (readValue depth) s).map fun t => t.map .list)
      (readTable (readValue depth))

/-! ### Documents -/

/-- Reads a header, after its opening brackets and up to its closing ones. -/
def readHeader (closing : List Char) (line : Path → Line) : Scan Line := fun s =>
  match readPath s with
  | none => none
  | some t =>
    if closing.isPrefixOf t.rest then some ((t.map line).leaving (.drop closing.length t.rest))
    else none

/-- Reads what is on a line, the end of the line apart. -/
def readLine : Scan Line := fun s =>
  match s with
  | '[' :: '[' :: r =>
    (readHeader [']', ']'] .element r).map fun t => (t.behind '[').behind '['
  | '[' :: r => (readHeader [']'] .table r).map (Taken.behind '[')
  | s => (readEntry (readValue maxDepth) s).map fun t => t.map fun (p, v) => .entry p v

/-- Reads all lines. -/
def readLines (s : List Char) : Option (List Line) :=
  match afterSpace s with
  | ⟨[], _⟩ => some []
  | ⟨c :: r, _h⟩ =>
    match afterLine? (c :: r) with
    | some r' => readLines r'.1
    | none =>
      match readLine (c :: r) with
      | none => none
      | some t =>
        match afterLine? t.rest with
        | none => none
        | some r' => (readLines r'.1).map (t.value :: ·)
termination_by s.length
decreasing_by
  · rcases r'.2 with hr | hr
    · rw [hr]; exact Nat.zero_lt_of_lt _h
    · exact Nat.lt_of_lt_of_le hr _h
  · rcases r'.2 with hr | hr
    · rw [hr]; exact Nat.zero_lt_of_lt _h
    · exact Nat.lt_trans hr (t.within _h).shorter

/-- A mark of the byte order at the beginning does not count. -/
def skipMark : List Char → List Char
  | '\uFEFF' :: r => r
  | s => s

/-- Reads a whole document. -/
def parse (s : List Char) : Option (List (String × Toml)) :=
  (readLines (skipMark s)).bind ofLines?

end RealmRegistry.Toml
