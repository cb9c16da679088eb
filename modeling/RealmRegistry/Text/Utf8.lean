/-
Bytes as text in UTF-8.

Bytes are cut into pieces from the left: a piece is a character, or as many bytes as could begin
one but do not make one.

* `pieces` — the pieces of some bytes;
* `lenient` — their text, with U+FFFD for each piece that is no character;
* `firstBroken?` — where the first such piece is.
-/
namespace RealmRegistry.Text.Utf8

/-- A character, or how many bytes stand in the place of one. -/
inductive Piece where
  | character (c : Char)
  | broken (size : Nat)
deriving DecidableEq

/-! ### Bytes -/

/-- How many bytes a character has that begins with a byte, 0 if none does. -/
def width (lead : Nat) : Nat :=
  if lead < 0x80 then 1
  else if lead < 0xc2 then 0
  else if lead < 0xe0 then 2
  else if lead < 0xf0 then 3
  else if lead < 0xf5 then 4
  else 0

/-- Whether a byte goes on with a character. -/
def isFollower (b : Nat) : Bool := 0x80 ≤ b && b < 0xc0

/-- Whether a byte may be the second one of a character: too small characters, surrogates and too
large ones are none. -/
def maySecond (lead b : Nat) : Bool :=
  isFollower b && (lead != 0xe0 || 0xa0 ≤ b) && (lead != 0xed || b < 0xa0) &&
    (lead != 0xf0 || 0x90 ≤ b) && (lead != 0xf4 || b < 0x90)

/-- The bytes that go on with a character, as far as they are there. -/
def followers (lead : Nat) : List Nat → List Nat
  | [] => []
  | b :: r =>
    if 1 < width lead ∧ maySecond lead b then
      b :: (r.take (width lead - 2)).takeWhile isFollower
    else []

/-- The bits that the first of so many bytes has for its character. -/
def leadBits (width lead : Nat) : Nat :=
  match width with
  | 2 => lead - 0xc0
  | 3 => lead - 0xe0
  | 4 => lead - 0xf0
  | _ => lead

/-- The number of a character. -/
def value (lead : Nat) (run : List Nat) : Nat :=
  run.foldl (fun n b => n * 0x40 + (b - 0x80)) (leadBits (width lead) lead)

/-! ### Pieces -/

/-- The pieces of bytes. -/
def pieces : List Nat → List Piece
  | [] => []
  | lead :: r =>
    let run := followers lead r
    let piece : Piece :=
      if run.length + 1 = width lead then .character (Char.ofNat (value lead run))
      else .broken (run.length + 1)
    piece :: pieces (r.drop run.length)
termination_by s => s.length
decreasing_by exact Nat.lt_succ_of_le (List.drop_suffix _ _).length_le

/-- What stands for a piece that is no character. -/
def replacement : Char := Char.ofNat 0xfffd

/-- The character of a piece. -/
def Piece.shown : Piece → Char
  | character c => c
  | broken _ => replacement

/-- The text of bytes, whatever they are. -/
def lenient (bytes : List Nat) : List Char := (pieces bytes).map Piece.shown

/-- Where the first broken piece is, how many bytes it has, and whether bytes follow it. -/
structure Break where
  index : Nat
  size : Nat
  followed : Bool
deriving DecidableEq

/-- The first broken piece behind `index` bytes. -/
def firstBroken? (index : Nat) : List Piece → Option Break
  | [] => none
  | .broken size :: r => some ⟨index, size, !r.isEmpty⟩
  | .character c :: r => firstBroken? (index + c.utf8Size) r

/-- The bytes of a text. -/
def bytes (s : List Char) : List Nat :=
  s.flatMap fun c => (String.utf8EncodeChar c).map UInt8.toNat

end RealmRegistry.Text.Utf8
