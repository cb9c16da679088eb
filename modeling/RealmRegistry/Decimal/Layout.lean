/-
How a number of double precision is written out.

A `Style` says which decimals are written with their point in place and which with a power of ten;
both have at least one digit after the point when it is in place.

* `Style.places` — `[1, 5]` with the point after the first digit is `1.5`;
* `Style.write` — sign, then the shortest decimal that reads back.
-/
import RealmRegistry.Decimal.Shortest

namespace RealmRegistry.Decimal

/-- Which decimals `0.d · 10^point` have their point in place. -/
structure Style where
  inPlace : Int → Bool

/-- The characters of digits. -/
def digitChars (ds : List Nat) : List Char :=
  ds.map fun d => Char.ofNat ('0'.toNat + d)

/-- Writes a decimal with its point in place. -/
def positional (d : Numeral) : List Char :=
  let cs := digitChars d.digits
  if d.point ≤ 0 then
    ['0', '.'] ++ List.replicate (-d.point).toNat '0' ++ (if cs.isEmpty then ['0'] else cs)
  else
    let n := d.point.toNat
    if cs.length ≤ n then cs ++ List.replicate (n - cs.length) '0' ++ ['.', '0']
    else cs.take n ++ '.' :: cs.drop n

/-- Writes a decimal with one digit before the point and a signed power of ten. -/
def scientific (d : Numeral) : List Char :=
  let e := d.point - 1
  let power := (if e < 0 then '-' else '+') :: (toString e.natAbs).toList
  match digitChars d.digits with
  | [] => ['0', '.', '0']
  | [c] => c :: 'e' :: power
  | c :: more => c :: '.' :: more ++ 'e' :: power

/-- Writes a number of double precision. -/
def Style.write (style : Style) (x : Double) : String :=
  match x.magnitude with
  | .nan => "NaN"
  | .infinite => if x.isNegative then "-inf" else "inf"
  | .finite m q =>
    let d := shortest m q
    let body := if style.inPlace d.point then positional d else scientific d
    String.ofList (if x.isNegative then '-' :: body else body)

end RealmRegistry.Decimal
