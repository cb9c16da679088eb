/-
Numbers of double precision, held as their 64 bits, so that two of them are equal exactly when
they are the same number with the same sign.

* `Double.magnitude` — what the bits stand for: a whole number times a power of two;
* `Double.ofDecimal` — the number nearest to a decimal;
* `Double.ofScaled?` — a 64-bit number scaled by a power of ten in double arithmetic.
-/
namespace RealmRegistry

/-- A number of double precision. -/
structure Double where
  bits : UInt64
deriving DecidableEq

namespace Double

/-- The number the machine holds as `x`. -/
def ofFloat (x : Float) : Double := ⟨x.toBits⟩

/-- What a number of double precision may be, its sign apart. -/
inductive Magnitude where
  | nan
  | infinite
  /-- `m` times two to the power `q` -/
  | finite (m : Nat) (q : Int)
deriving DecidableEq

/-- Whether the sign bit is set. -/
def isNegative (x : Double) : Bool :=
  x.bits >>> 63 == 1

/-- The eleven bits of the exponent. -/
def exponentField (x : Double) : Nat :=
  ((x.bits >>> 52) &&& 0x7ff).toNat

/-- The fifty-two bits of the fraction. -/
def fractionField (x : Double) : Nat :=
  (x.bits &&& 0xfffffffffffff).toNat

/-- Reads the bits: the largest exponent is kept for what is no number, the smallest for numbers
without a leading one. -/
def magnitude (x : Double) : Magnitude :=
  if x.exponentField = 0x7ff then
    if x.fractionField = 0 then .infinite else .nan
  else if x.exponentField = 0 then .finite x.fractionField (-1074)
  else .finite (0x10000000000000 + x.fractionField) (x.exponentField - 1075)

/-- The infinite numbers. -/
def infinity (negative : Bool) : Double :=
  if negative then ⟨0xfff0000000000000⟩ else ⟨0x7ff0000000000000⟩

/-- What is no number. -/
def notANumber (negative : Bool) : Double :=
  if negative then ⟨0xfff8000000000000⟩ else ⟨0x7ff8000000000000⟩

/-- Turns the sign. -/
def signed (negative : Bool) (x : Float) : Double :=
  ofFloat (if negative then -x else x)

/-- The number nearest to `±digits · 10^exponent`.  Beyond four hundred places the answer is
infinite or zero whatever the digits are, and the power is not computed. -/
def ofDecimal (negative : Bool) (digits : Nat) (exponent : Int) : Double :=
  let size := exponent + (Nat.toDigits 10 digits).length
  if digits = 0 then signed negative 0
  else if 400 < size then infinity negative
  else if size < -400 then signed negative 0
  else
    signed negative
      (if exponent < 0 then Float.ofScientific digits true exponent.natAbs
       else Float.ofScientific digits false exponent.natAbs)

/-- Ten to the power `n`, for `n` up to 308. -/
def tenTo (n : Nat) : Float :=
  Float.ofScientific 1 false n

/-- Scales by powers of ten as far as one double holds them, dividing for negative exponents;
`none` when the number grows beyond every double. -/
def scale? (x : Float) (exponent : Int) : Option Float :=
  if exponent.natAbs ≤ 308 then
    if 0 ≤ exponent then
      let y := x * tenTo exponent.natAbs
      if y.isInf then none else some y
    else some (x / tenTo exponent.natAbs)
  else if x == 0 then some x
  else if 0 ≤ exponent then none
  else scale? (x / tenTo 308) (exponent + 308)
termination_by exponent.natAbs
decreasing_by omega

/-- `±significand · 10^exponent` in double arithmetic: the significand is rounded first and then
scaled. -/
def ofScaled? (negative : Bool) (significand : UInt64) (exponent : Int) : Option Double :=
  (scale? significand.toFloat exponent).map (signed negative)

end Double

end RealmRegistry
