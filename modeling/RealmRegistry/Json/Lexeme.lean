/-
The words of JSON: blanks, names, strings and numbers.

Readers start at the first character of the lexeme (`readText` after the opening quote) and fail
at the first byte that does not fit:

* `escape` — one escape after its backslash, a pair of surrogates included;
* `readText` — the characters up to the closing quote;
* `readNumeral`, `Numeral.value?` — the parts of a number, and the number they make: an integer if
  it fits 64 bits, else a double.
-/
import RealmRegistry.Json.Basic
import RealmRegistry.Json.Fault
import RealmRegistry.Text.Digit
import RealmRegistry.Text.Reader

namespace RealmRegistry.Json

open RealmRegistry.Text

/-! ### Blanks and words -/

/-- The blanks between the parts of a JSON text. -/
def isSpace (c : Char) : Bool :=
  c == ' ' || c == '\t' || c == '\n' || c == '\r'

/-- The text from its first character that is no blank. -/
def skipSpace (s : List Char) : List Char :=
  s.dropWhile isSpace

theorem length_skipSpace_le (s : List Char) : (skipSpace s).length ≤ s.length :=
  length_dropWhile_le _ _

/-- What is behind the blanks at the front. -/
def afterSpace (s : List Char) : Rest s :=
  ⟨skipSpace s, length_skipSpace_le s⟩

/-- Reads the letters of `word` one after the other. -/
def readWord : (word s : List Char) → Except (Fault SyntaxError) (Rest s)
  | [], s => .ok (.all s)
  | _ :: _, [] => .error (.before .endInValue [])
  | w :: word, c :: r =>
    if c = w then
      (readWord word r).map (Rest.behind c)
    else .error (.upon .notWord (c :: r))

/-! ### Strings -/

/-- The number that four digits in base sixteen make. -/
def hexValue4? (a b c d : Char) : Option Nat := do
  let a ← hexValue? a
  let b ← hexValue? b
  let c ← hexValue? c
  let d ← hexValue? d
  return ((a * 16 + b) * 16 + c) * 16 + d

/-- Reads four bytes as digits in base sixteen. -/
def readHex4 (s : List Char) : Except (Fault SyntaxError) (Taken Nat s) :=
  match s with
  | a :: b :: c :: d :: r =>
    match hexValue4? a b c d with
    | some n => .ok ((((Taken.first n d r).behind c).behind b).behind a)
    | none => .error ⟨.badEscape, byteCount (a :: b :: c :: d :: r) - 4⟩
  | s =>
    if byteCount s < 4 then .error (.before .endInText [])
    else .error ⟨.badEscape, byteCount s - 4⟩

/-- Whether a UTF-16 unit opens a pair. -/
def isLeading (n : Nat) : Bool := 0xd800 ≤ n && n ≤ 0xdbff

/-- Whether a UTF-16 unit closes a pair. -/
def isTrailing (n : Nat) : Bool := 0xdc00 ≤ n && n ≤ 0xdfff

/-- The character of a pair of UTF-16 units. -/
def ofPair (lead trail : Nat) : Char :=
  Char.ofNat (0x10000 + (lead - 0xd800) * 0x400 + (trail - 0xdc00))

/-- Reads the second unit of a pair, which has to be an escape of its own. -/
def readTrailing (lead : Nat) (s : List Char) : Except (Fault SyntaxError) (Taken Char s) :=
  match s with
  | [] => .error (.before .endInText [])
  | '\\' :: [] => .error (.before .endInText [])
  | '\\' :: 'u' :: r => do
    let t ← readHex4 r
    if isTrailing t.value then
      return ((t.map (ofPair lead)).behind 'u').behind '\\'
    else .error (.before .loneSurrogate t.rest)
  | '\\' :: c :: r => .error (.upon .unpairedSurrogate (c :: r))
  | c :: r => .error (.upon .unpairedSurrogate (c :: r))

/-- Reads the digits of a `\u` escape, and the second one that a leading surrogate needs. -/
def readUnit (s : List Char) : Except (Fault SyntaxError) (Taken Char s) := do
  let t ← readHex4 s
  if isTrailing t.value then .error (.before .loneSurrogate t.rest)
  else if isLeading t.value then
    let c ← readTrailing t.value t.rest
    return t.next c
  else return t.map Char.ofNat

/-- The character of an escape of one letter. -/
def letterEscape? : Char → Option Char
  | '"' => some '"'
  | '\\' => some '\\'
  | '/' => some '/'
  | 'b' => some (Char.ofNat 8)
  | 'f' => some (Char.ofNat 12)
  | 'n' => some '\n'
  | 'r' => some '\r'
  | 't' => some '\t'
  | _ => none

/-- Reads what follows the backslash of an escape. -/
def escape (s : List Char) : Except (Fault SyntaxError) (Taken Char s) :=
  match s with
  | [] => .error (.before .endInText [])
  | c :: r =>
    match letterEscape? c with
    | some e => .ok (.first e c r)
    | none =>
      if c = 'u' then (readUnit r).map (Taken.behind c)
      else .error (.upon .badEscape (c :: r))

/-- Reads the characters of a string up to its closing quote. -/
def readChars (s : List Char) : Except (Fault SyntaxError) (Taken (List Char) s) :=
  match s with
  | [] => .error (.before .endInText [])
  | c :: r =>
    if c = '"' then .ok (.first [] c r)
    else if c = '\\' then
      match escape r with
      | .error e => .error e
      | .ok t =>
        (readChars t.rest).map fun u => (t.next (u.map (t.value :: ·))).behind c
    else if c.toNat < 32 then .error (.upon .controlCharacter (c :: r))
    else (readChars r).map fun u => (u.map (c :: ·)).behind c
termination_by s.length
decreasing_by
  · exact (t.behind c).shorter
  · exact length_lt_cons c r

/-- Reads a string after its opening quote. -/
def readText : Reader (Fault SyntaxError) String :=
  Reader.map String.ofList readChars

/-! ### Numbers -/

/-- The parts of a number as it is written; a number without a point has no fraction. -/
structure Numeral where
  negative : Bool
  whole : List Nat
  fraction : List Nat
  exponent : Option (Bool × List Nat)

/-- The value of a decimal digit. -/
def digitValue (c : Char) : Nat := c.toNat - 48

/-- The digits at the front of a text, and the rest. -/
def readDigits (s : List Char) : List Nat × Rest s :=
  ((s.takeWhile Char.isDigit).map digitValue, Rest.dropWhile Char.isDigit s)

/-- Reads the digits before the point: a zero stands alone. -/
def readWhole (s : List Char) : Except (Fault SyntaxError) (Taken (List Nat) s) :=
  match s with
  | [] => .error (.before .endInValue [])
  | c :: r =>
    if c = '0' then
      match r with
      | d :: r' =>
        if d.isDigit then .error (.upon .badNumber (d :: r')) else .ok (.first [0] c (d :: r'))
      | [] => .ok (.first [0] c [])
    else if c.isDigit then
      .ok (.upTo (digitValue c :: (readDigits r).1) c (readDigits r).2)
    else .error (.upon .badNumber (c :: r))

/-- Reads a point and the digits after it, of which there has to be one. -/
def readFraction (s : List Char) : Except (Fault SyntaxError) (List Nat × Rest s) :=
  match s with
  | '.' :: [] => .error (.before .endInValue [])
  | '.' :: c :: r =>
    if c.isDigit then
      .ok (digitValue c :: (readDigits r).1, ((readDigits r).2.behind c).behind '.')
    else .error (.upon .badNumber (c :: r))
  | s => .ok ([], .all s)

/-- The sign of an exponent, and the rest. -/
def readSign (s : List Char) : Bool × Rest s :=
  match s with
  | '+' :: r => (false, (Rest.all r).behind '+')
  | '-' :: r => (true, (Rest.all r).behind '-')
  | s => (false, .all s)

/-- Reads an exponent with at least one digit. -/
def readExponent (s : List Char) :
    Except (Fault SyntaxError) (Option (Bool × List Nat) × Rest s) :=
  match s with
  | [] => .ok (none, .all [])
  | c :: r =>
    if c = 'e' ∨ c = 'E' then
      match readSign r with
      | (_, ⟨[], _⟩) => .error (.before .endInValue [])
      | (negative, ⟨d :: r', h⟩) =>
        if d.isDigit then
          .ok (some (negative, digitValue d :: (readDigits r').1),
            (((readDigits r').2.behind d).within h).behind c)
        else .error (.upon .badNumber (d :: r'))
    else .ok (none, .all (c :: r))

/-- Reads the parts of a number after its sign. -/
def readUnsigned (negative : Bool) (s : List Char) :
    Except (Fault SyntaxError) (Taken Numeral s) := do
  let whole ← readWhole s
  let (fraction, afterFraction) ← readFraction whole.rest
  let (exponent, afterExponent) ← readExponent afterFraction.1
  return (whole.map (⟨negative, ·, fraction, exponent⟩)).leaving (afterFraction.next afterExponent)

/-- Reads the parts of a number. -/
def readNumeral (s : List Char) : Except (Fault SyntaxError) (Taken Numeral s) :=
  match s with
  | '-' :: r => (readUnsigned true r).map (Taken.behind '-')
  | s => readUnsigned false s

/-- Gathers digits while the number they make fits 64 bits: the number, and the digits left. -/
def gather (n : Nat) : List Nat → Nat × List Nat
  | [] => (n, [])
  | d :: r => if n * 10 + d < 0x10000000000000000 then gather (n * 10 + d) r else (n, d :: r)

/-- Gathers the digits of an exponent while they fit 31 bits. -/
def gatherExponent (n : Nat) : List Nat → Nat × List Nat
  | [] => (n, [])
  | d :: r => if n * 10 + d < 0x80000000 then gatherExponent (n * 10 + d) r else (n, d :: r)

/-- An integer, or a number of double precision. -/
inductive Number where
  | integer (i : Int)
  | float (x : Double)
deriving DecidableEq

namespace Numeral

/-- The significand: the digits that fit 64 bits, and the power of ten that goes with them. -/
def significand (n : Numeral) : Nat × Int :=
  let (whole, more) := gather 0 n.whole
  let (all, rest) := gather whole n.fraction
  (all, more.length - (n.fraction.length - rest.length : Int))

/-- The number, or how many of its digits are left where it has become too large. -/
def value (n : Numeral) : Except Nat Number :=
  let (digits, power) := n.significand
  let scaled (e : Int) : Except Nat Number :=
    match Double.ofScaled? n.negative (UInt64.ofNat digits) (power + e) with
    | some x => .ok (.float x)
    | none => .error 0
  match n.exponent with
  | some (below, ds) =>
    match gatherExponent 0 ds with
    | (e, []) => scaled (if below then -e else e)
    | (_, _ :: r) =>
      if digits ≠ 0 ∧ ¬ below then .error r.length else .ok (.float (.signed n.negative 0))
  | none =>
    if n.fraction.isEmpty ∧ (gather 0 n.whole).2.isEmpty then
      if ¬ n.negative then .ok (.integer digits)
      else if digits ≠ 0 ∧ digits ≤ 0x8000000000000000 then .ok (.integer (-digits))
      else .ok (.float (.signed true (UInt64.ofNat digits).toFloat))
    else scaled 0

end Numeral

/-- Reads a number. -/
def readNumber (s : List Char) : Except (Fault SyntaxError) (Taken Number s) := do
  let t ← readNumeral s
  match t.value.value with
  | .ok n => return t.map fun _ => n
  | .error unread => .error ⟨.hugeNumber, byteCount t.rest + unread⟩

end RealmRegistry.Json
