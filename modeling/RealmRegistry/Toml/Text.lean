/-
TOML strings, as they are read and written.

There are four forms: between double quotes, where escapes count, or single quotes, where nothing
does, each on one line or, with three quotes, over several.

* `readText` — a string in any form;
* `Form.of` — the first form that a text fits;
* `quote` — a text in that form.
-/
import RealmRegistry.Text.Digit
import RealmRegistry.Text.Reader
import RealmRegistry.Toml.Basic

namespace RealmRegistry.Toml

open RealmRegistry.Text

/-- A reader that fails without a reason. -/
abbrev Scan (α : Type) : Type := (s : List Char) → Option (Taken α s)

theorem length_skipSpace_le (s : List Char) : (skipSpace s).length ≤ s.length :=
  length_dropWhile_le _ _

/-- What is behind the blanks at the front. -/
def afterSpace (s : List Char) : Rest s :=
  ⟨skipSpace s, length_skipSpace_le s⟩

/-! ### Escapes -/

/-- Reads so many digits in base sixteen after the number `n`. -/
def readHex (n : Nat) : (count : Nat) → (s : List Char) → Option (Nat × Rest s)
  | 0, s => some (n, .all s)
  | _ + 1, [] => none
  | count + 1, c :: r =>
    match hexValue? c with
    | none => none
    | some d => (readHex (n * 16 + d) count r).map fun t => (t.1, t.2.behind c)

/-- Reads a character given by so many digits in base sixteen. -/
def readScalar (count : Nat) (s : List Char) : Option (Char × Rest s) :=
  match readHex 0 count s with
  | none => none
  | some (n, r) => if n.isValidChar then some (Char.ofNat n, r) else none

/-- The character of an escape of one letter. -/
def letterEscape? : Char → Option Char
  | 'b' => some (Char.ofNat 8)
  | 't' => some '\t'
  | 'n' => some '\n'
  | 'f' => some (Char.ofNat 12)
  | 'r' => some '\r'
  | '"' => some '"'
  | '\\' => some '\\'
  | _ => none

/-- Reads what follows the backslash of an escape. -/
def readEscape : Scan Char := fun s =>
  match s with
  | [] => none
  | c :: r =>
    match letterEscape? c with
    | some e => some (.first e c r)
    | none =>
      let scalar := if c = 'u' then readScalar 4 r else if c = 'U' then readScalar 8 r else none
      scalar.map fun t => .upTo t.1 c t.2

/-! ### Strings on one line -/

/-- Reads up to the closing double quote. -/
def readBasic (s : List Char) : Option (Taken (List Char) s) :=
  match s with
  | [] => none
  | c :: r =>
    if c = '"' then some (.first [] c r)
    else if c = '\\' then
      match readEscape r with
      | none => none
      | some t =>
        (readBasic t.rest).map fun u => (t.next (u.map (t.value :: ·))).behind c
    else if isPlain c then (readBasic r).map fun u => (u.map (c :: ·)).behind c
    else none
termination_by s.length
decreasing_by
  · exact (t.behind c).shorter
  · exact length_lt_cons c r

/-- Reads up to the closing single quote. -/
def readLiteral : (s : List Char) → Option (Taken (List Char) s)
  | [] => none
  | c :: r =>
    if c = '\'' then some (.first [] c r)
    else if isPlain c then (readLiteral r).map fun u => (u.map (c :: ·)).behind c
    else none

/-! ### Strings over several lines -/

/-- What is behind a line break. -/
def afterBreak? (s : List Char) : Option (Taken Unit s) :=
  match s with
  | '\n' :: r => some (.first () '\n' r)
  | '\r' :: '\n' :: r => some ((Taken.first () '\n' r).behind '\r')
  | _ => none

/-- What is behind blanks and line breaks. -/
def skipBreaks : (s : List Char) → Rest s
  | [] => .all []
  | '\r' :: '\n' :: r => ((skipBreaks r).behind '\n').behind '\r'
  | c :: r => if isSpace c ∨ c = '\n' then (skipBreaks r).behind c else .all (c :: r)

/-- What is behind a backslash at the end of a line: the blanks up to the next line's text do not
count. -/
def afterLineEnd? (s : List Char) : Option (Taken Unit s) :=
  (afterBreak? (skipSpace s)).map fun t =>
    (t.leaving (skipBreaks t.rest)).within (length_skipSpace_le s)

/-- At most `n` quotes at the front, and what is behind them. -/
def takeQuotes (q : Char) : (n : Nat) → (s : List Char) → List Char × Rest s
  | 0, s => ([], .all s)
  | _ + 1, [] => ([], .all [])
  | n + 1, c :: r =>
    if c = q then
      let t := takeQuotes q n r
      (q :: t.1, t.2.behind c)
    else ([], .all (c :: r))

/-- What is behind three quotes, and up to two quotes before them that belong to the text. -/
def closing? (q : Char) (s : List Char) : Option (Taken (List Char) s) :=
  match s with
  | a :: b :: c :: r =>
    if a = q ∧ b = q ∧ c = q then
      let t := takeQuotes q 2 r
      some (((Taken.upTo t.1 c t.2).behind b).behind a)
    else none
  | _ => none

/-- Reads up to three double quotes. -/
def readMultiBasic (s : List Char) : Option (Taken (List Char) s) :=
  match closing? '"' s with
  | some t => some t
  | none =>
    match s with
    | [] => none
    | c :: r =>
      if c = '\\' then
        match afterLineEnd? r with
        | some t => (readMultiBasic t.rest).map fun u => (t.next u).behind c
        | none =>
          match readEscape r with
          | none => none
          | some t =>
            (readMultiBasic t.rest).map fun u => (t.next (u.map (t.value :: ·))).behind c
      else
        match afterBreak? (c :: r) with
        | some t => (readMultiBasic t.rest).map fun u => t.next (u.map ('\n' :: ·))
        | none =>
          if isPlain c then (readMultiBasic r).map fun u => (u.map (c :: ·)).behind c
          else none
termination_by s.length
decreasing_by
  · exact (t.behind c).shorter
  · exact (t.behind c).shorter
  · exact t.shorter
  · exact length_lt_cons c r

/-- Reads up to three single quotes. -/
def readMultiLiteral (s : List Char) : Option (Taken (List Char) s) :=
  match closing? '\'' s with
  | some t => some t
  | none =>
    match s with
    | [] => none
    | c :: r =>
      match afterBreak? (c :: r) with
      | some t => (readMultiLiteral t.rest).map fun u => t.next (u.map ('\n' :: ·))
      | none =>
        if isPlain c then (readMultiLiteral r).map fun u => (u.map (c :: ·)).behind c
        else none
termination_by s.length
decreasing_by
  · exact t.shorter
  · exact length_lt_cons c r

/-- A line break right behind the opening quotes does not count. -/
def skipBreak (s : List Char) : Rest s :=
  match afterBreak? s with
  | some t => t.left
  | none => .all s

/-- Reads a string of one line, from its opening quote. -/
def readLineText : Scan (List Char) := fun s =>
  match s with
  | [] => none
  | c :: r =>
    let body := if c = '"' then readBasic r else if c = '\'' then readLiteral r else none
    body.map (Taken.behind c)

/-- What is behind three opening quotes and the line break that may follow them. -/
def afterOpening? (q : Char) (s : List Char) : Option (Rest s) :=
  match s with
  | a :: b :: c :: r =>
    if a = q ∧ b = q ∧ c = q then some ((((skipBreak r).behind c).behind b).behind a) else none
  | _ => none

/-- Reads the characters of a string, from its opening quote. -/
def readChars : Scan (List Char) := fun s =>
  match afterOpening? '"' s with
  | some ⟨r, h⟩ => (readMultiBasic r).map fun t => t.within h
  | none =>
    match afterOpening? '\'' s with
    | some ⟨r, h⟩ => (readMultiLiteral r).map fun t => t.within h
    | none => readLineText s

/-- Reads a string, from its opening quote. -/
def readText : Scan String := fun s =>
  (readChars s).map fun t => t.map String.ofList

/-! ### Writing -/

/-- How a string is written. -/
inductive Form where
  | basic
  | literal
  | multiBasic
  | multiLiteral
deriving DecidableEq

/-- A character that cannot stand between quotes as it is. -/
def isControl (c : Char) : Bool := c != '\n' && !isPlain c

/-- Whether a text has `n` quotes `q` in a row, of which `run` were before it. -/
def hasRun (q : Char) (n run : Nat) : List Char → Bool
  | [] => false
  | c :: r =>
    if c = q then n ≤ run + 1 || hasRun q n (run + 1) r
    else hasRun q n 0 r

/-- The first form that a text fits without an escape; if there is none, the form over several
lines for a text that has several. -/
def Form.of (s : List Char) : Form :=
  let lines := s.contains '\n'
  let controls := s.any isControl
  if !controls && !s.contains '\\' && !s.contains '"' && !lines then .basic
  else if !controls && !s.contains '\'' && !lines then .literal
  else if !controls && !s.contains '\\' && !hasRun '"' 3 0 s then .multiBasic
  else if !controls && !hasRun '\'' 3 0 s then .multiLiteral
  else if lines then .multiBasic
  else .basic

/-- The escape of a character below the blank that has no letter of its own. -/
def hexEscape (n : Nat) : List Char :=
  let digit (d : Nat) : Char := Char.ofNat (if d < 10 then 48 + d else 55 + d)
  ['\\', 'u', '0', '0', digit (n / 16), digit (n % 16)]

/-- One character other than a quote between double quotes; line breaks stay as they are if the
string goes over several lines. -/
def escapeChar (multi : Bool) (c : Char) : List Char :=
  if c.toNat = 8 then ['\\', 'b']
  else if c = '\t' then ['\\', 't']
  else if c = '\n' then if multi then ['\n'] else ['\\', 'n']
  else if c.toNat = 12 then ['\\', 'f']
  else if c = '\r' then ['\\', 'r']
  else if c = '\\' then ['\\', '\\']
  else if isPlain c then [c]
  else hexEscape c.toNat

/-- A text between double quotes, of which at most `free` in a row stand without a backslash;
`run` were before it. -/
def escapeText (multi : Bool) (free run : Nat) : List Char → List Char
  | [] => []
  | c :: r =>
    if c = '"' then
      if run < free then '"' :: escapeText multi free (run + 1) r
      else '\\' :: '"' :: escapeText multi free 0 r
    else escapeChar multi c ++ escapeText multi free 0 r

/-- The line break behind opening quotes, which a text of several lines gets. -/
def openingBreak (s : List Char) : List Char :=
  if s.contains '\n' then ['\n'] else []

/-- A text in a form. -/
def Form.write (s : List Char) : Form → List Char
  | basic => '"' :: escapeText false 0 0 s ++ ['"']
  | literal => '\'' :: s ++ ['\'']
  | multiBasic => ['"', '"', '"'] ++ openingBreak s ++ escapeText true 2 0 s ++ ['"', '"', '"']
  | multiLiteral => ['\'', '\'', '\''] ++ openingBreak s ++ s ++ ['\'', '\'', '\'']

/-- A text in the first form that it fits. -/
def quote (s : String) : List Char :=
  (Form.of s.toList).write s.toList

end RealmRegistry.Toml
