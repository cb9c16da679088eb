/-
Sets of code points as inclusive ranges.
-/
namespace RealmRegistry.Text

/-- Whether a code point lies in one of the ranges. -/
def inRanges (ranges : Array (Nat × Nat)) (n : Nat) : Bool :=
  ranges.any fun r => r.1 ≤ n && n ≤ r.2

end RealmRegistry.Text
