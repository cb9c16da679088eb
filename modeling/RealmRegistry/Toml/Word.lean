/-
The words of TOML that are no strings: truth values, numbers, dates and times.

A word is a run of letters, digits and the marks `+ - . _ :`.  It is read as a whole, since no
value may follow another without something in between:

* `Word.integer?` — a whole number of 64 bits, in base two, eight, ten or sixteen;
* `Word.float?` — a number with a point or a power of ten;
* `Word.isMoment` — a date, a time or both.
-/
import RealmRegistry.Text.Digit
import RealmRegistry.Toml.Basic

namespace RealmRegistry.Toml

open RealmRegistry.Text

/-- A character of a word. -/
def isWordChar (c : Char) : Bool :=
  c.isAlphanum || c == '+' || c == '-' || c == '.' || c == '_' || c == ':'

namespace Word

/-! ### Numbers -/

/-- Digits, between which single underscores may stand. -/
def digits? (base : Nat) : List Char → Option (List Nat)
  | [] => none
  | c :: r =>
    match digitValue? base c with
    | none => none
    | some d =>
      match r with
      | [] => some [d]
      | '_' :: r' => (digits? base r').map (d :: ·)
      | e :: r' => (digits? base (e :: r')).map (d :: ·)

/-- The sign of a number and what is behind it. -/
def sign : List Char → Bool × List Char
  | '+' :: r => (false, r)
  | '-' :: r => (true, r)
  | s => (false, s)

/-- The digits before the point, where a zero stands alone. -/
def whole? (s : List Char) : Option (List Nat) :=
  match digits? 10 s with
  | some (0 :: _ :: _) => none
  | ds => ds

/-- The whole number of a word, whatever its size. -/
def number? (s : List Char) : Option Int :=
  match s with
  | '0' :: 'x' :: r => (digits? 16 r).map fun ds => (ofDigits 16 ds : Int)
  | '0' :: 'o' :: r => (digits? 8 r).map fun ds => (ofDigits 8 ds : Int)
  | '0' :: 'b' :: r => (digits? 2 r).map fun ds => (ofDigits 2 ds : Int)
  | s =>
    let (negative, r) := sign s
    (whole? r).map fun ds => if negative then -(ofDigits 10 ds : Int) else ofDigits 10 ds

/-- The whole number of a word, if it has 64 bits. -/
def integer? (s : List Char) : Option Int :=
  (number? s).filter fun i => -0x8000000000000000 ≤ i ∧ i < 0x8000000000000000

/-- A power of ten: nothing, or a mark with a sign and digits. -/
def power? : List Char → Option Int
  | [] => some 0
  | _ :: r =>
    let (negative, r) := sign r
    (digits? 10 r).map fun ds => if negative then -(ofDigits 10 ds : Int) else ofDigits 10 ds

/-- The digits behind a point: none, or a point with at least one. -/
def fraction? : List Char → Option (List Nat)
  | [] => some []
  | _ :: r => digits? 10 r

/-- Whether a power of ten begins here. -/
def isPowerMark (c : Char) : Bool := c == 'e' || c == 'E'

/-- The number of double precision of a word without a sign; none if it is too large. -/
def decimal? (negative : Bool) (s : List Char) : Option Double := do
  let mantissa := s.takeWhile fun c => !isPowerMark c
  let whole ← whole? (mantissa.takeWhile (· != '.'))
  let fraction ← fraction? (mantissa.dropWhile (· != '.'))
  let power ← power? (s.dropWhile fun c => !isPowerMark c)
  let x := Double.ofDecimal negative (ofDigits 10 (whole ++ fraction)) (power - fraction.length)
  if x = Double.infinity false then none else some x

/-- The number of double precision of a word. -/
def float? (s : List Char) : Option Double :=
  let (negative, r) := sign s
  match r with
  | ['i', 'n', 'f'] => some (Double.infinity negative)
  | ['n', 'a', 'n'] => some (Double.notANumber negative)
  | r => if r.any fun c => c == '.' || isPowerMark c then decimal? negative r else none

/-! ### Dates and times -/

/-- The number of two decimal digits. -/
def pair? (a b : Char) : Option Nat := do
  return (← digitValue? 10 a) * 10 + (← digitValue? 10 b)

/-- The number of days of a month. -/
def daysIn (year month : Nat) : Nat :=
  let leap := year % 4 == 0 && (year % 100 != 0 || year % 400 == 0)
  if month = 2 then if leap then 29 else 28
  else if month = 4 ∨ month = 6 ∨ month = 9 ∨ month = 11 then 30
  else 31

/-- What is behind a date. -/
def afterDate? : List Char → Option (List Char)
  | a :: b :: c :: d :: '-' :: e :: f :: '-' :: g :: h :: r => do
    let year := (← pair? a b) * 100 + (← pair? c d)
    let month ← pair? e f
    let day ← pair? g h
    if 1 ≤ month ∧ month ≤ 12 ∧ 1 ≤ day ∧ day ≤ daysIn year month then some r else none
  | _ => none

/-- What is behind an hour and a minute. -/
def afterMinute? : List Char → Option (List Char)
  | a :: b :: ':' :: c :: d :: r => do
    let hour ← pair? a b
    let minute ← pair? c d
    if hour ≤ 23 ∧ minute ≤ 59 then some r else none
  | _ => none

/-- What is behind a second and its fraction. -/
def afterSecond? : List Char → Option (List Char)
  | ':' :: a :: b :: r => do
    let second ← pair? a b
    if 60 < second then none
    else
      match r with
      | '.' :: c :: r' => if c.isDigit then some (r'.dropWhile Char.isDigit) else none
      | r => some r
  | _ => none

/-- What is behind a time. -/
def afterTime? (s : List Char) : Option (List Char) :=
  (afterMinute? s).bind afterSecond?

/-- Whether this is the distance from universal time, or nothing. -/
def isOffset : List Char → Bool
  | [] => true
  | ['Z'] => true
  | ['z'] => true
  | '+' :: r => afterMinute? r == some []
  | '-' :: r => afterMinute? r == some []
  | _ => false

/-- Whether this is a time, with or without an offset. -/
def isClock (s : List Char) : Bool :=
  match afterTime? s with
  | some r => isOffset r
  | none => false

/-- Whether this is a date. -/
def isDate (s : List Char) : Bool := afterDate? s == some []

/-- Whether a word is a date, a time or both. -/
def isMoment (s : List Char) : Bool :=
  match afterDate? s with
  | some [] => true
  | some (c :: r) => (c == 'T' || c == 't') && isClock r
  | none => afterTime? s == some []

end Word

/-- The value of a word. -/
def ofWord? (s : List Char) : Option Toml :=
  if s = ['t', 'r', 'u', 'e'] then some (.flag true)
  else if s = ['f', 'a', 'l', 's', 'e'] then some (.flag false)
  else if Word.isMoment s then some (.moment (String.ofList s))
  else
    match Word.integer? s with
    | some i => some (.integer i)
    | none => (Word.float? s).map .float

end RealmRegistry.Toml
