/-
The shortest decimal that reads back as a given number of double precision.

A double stands for the interval of reals that are rounded to it; the ends belong to it when its
whole part `m` is even.  `shortest` looks for one digit, two digits and so on, and at each length
tests the two neighbours of the number on that decimal grid, in exact arithmetic.  The first
length with a neighbour in the interval wins; of two neighbours the nearer one, of two equally
near ones the even one.
-/
import RealmRegistry.Decimal.Double

namespace RealmRegistry.Decimal

/-- The decimal `0.d₁d₂… · 10^point`; no digits stand for zero. -/
structure Numeral where
  digits : List Nat
  point : Int
deriving DecidableEq

/-- The digits of a number, most significant first. -/
def digitsOf (n : Nat) : List Nat :=
  (Nat.toDigits 10 n).map fun c => c.toNat - '0'.toNat

/-- A positive number as a fraction, and the interval around it with the same denominator. -/
structure Target where
  value : Nat
  low : Nat
  high : Nat
  scale : Nat
  closed : Bool

/-- The interval of a double.  Below a power of two the neighbour is only half as far away. -/
def Target.of (m : Nat) (q : Int) : Target :=
  let up := Nat.pow 2 q.toNat
  let below := if m = 0x10000000000000 ∧ -1074 < q then 1 else 2
  { value := 4 * m * up, low := (4 * m - below) * up, high := (4 * m + 2) * up,
    scale := 4 * Nat.pow 2 (-q).toNat, closed := m % 2 == 0 }

namespace Target

/-- The least `k` with the value below `10^k`. -/
def point (t : Target) : Int :=
  if t.scale ≤ t.value then (digitsOf (t.value / t.scale)).length
  else 1 - (digitsOf ((t.scale + t.value - 1) / t.value - 1)).length

/-- Whether `c · unit` lies in the interval, both taken `times` times. -/
def admits (t : Target) (times unit c : Nat) : Bool :=
  if t.closed then t.low * times ≤ c * unit && c * unit ≤ t.high * times
  else t.low * times < c * unit && c * unit < t.high * times

/-- The neighbour on the grid of `n` digits that the interval holds, the nearer one of two. -/
def onGrid (t : Target) (k : Int) (n : Nat) : Option Nat :=
  let times := Nat.pow 10 (n - k).toNat
  let unit := t.scale * Nat.pow 10 (k - n).toNat
  let c := t.value * times / unit
  let below := t.value * times - c * unit
  let above := (c + 1) * unit - t.value * times
  match t.admits times unit c, t.admits times unit (c + 1) with
  | true, true =>
    if below < above then some c
    else if above < below then some (c + 1)
    else if c % 2 = 0 then some c else some (c + 1)
  | true, false => some c
  | false, true => some (c + 1)
  | false, false => none

/-- Looks for the first length with a neighbour in the interval, from `n` digits on. -/
def search (t : Target) (k : Int) : (more n : Nat) → Nat × Nat
  | 0, n => (t.value * Nat.pow 10 (n - k).toNat / (t.scale * Nat.pow 10 (k - n).toNat), n)
  | more + 1, n =>
    match t.onGrid k n with
    | some c => (c, n)
    | none => search t k more (n + 1)

end Target

/-- Leaves the zeros at the end away. -/
def withoutTrailingZeros (ds : List Nat) : List Nat :=
  (ds.reverse.dropWhile (· == 0)).reverse

/-- The shortest decimal in the interval of `m · 2^q`; seventeen digits are always enough. -/
def shortest (m : Nat) (q : Int) : Numeral :=
  if m = 0 then ⟨[], 0⟩
  else
    let t := Target.of m q
    let k := t.point
    let (c, n) := t.search k 17 1
    let ds := digitsOf c
    ⟨withoutTrailingZeros ds, k + (ds.length - n : Int)⟩

end RealmRegistry.Decimal
