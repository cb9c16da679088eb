/-
JSON values, and how they are written.

`Json.write` writes a value on one line (`none`) or with two blanks of indentation for each level
(`some depth`); one definition serves both, so a law about what is written is proved once.

* `quote` escapes the quote, the backslash and what lies below the blank, and nothing else;
* `Json.compact`, `Json.pretty` — the two forms as strings.
-/
import RealmRegistry.Decimal.Layout

namespace RealmRegistry

/-- A JSON value.  The members of an object stand in the order of the text or of the writer. -/
inductive Json where
  | null
  | flag (b : Bool)
  | integer (i : Int)
  | float (x : Double)
  | text (s : String)
  | list (items : List Json)
  | object (members : List (String × Json))

namespace Json

/-! ### Strings -/

/-- The escape of a character below the blank that has no letter of its own. -/
def hexEscape (n : Nat) : List Char :=
  let digit (d : Nat) : Char := if d < 10 then Char.ofNat (48 + d) else Char.ofNat (87 + d)
  ['\\', 'u', '0', '0', digit (n / 16), digit (n % 16)]

/-- One character between the quotes. -/
def escapeChar (c : Char) : List Char :=
  if c = '"' then ['\\', '"']
  else if c = '\\' then ['\\', '\\']
  else if c.toNat = 8 then ['\\', 'b']
  else if c = '\t' then ['\\', 't']
  else if c = '\n' then ['\\', 'n']
  else if c.toNat = 12 then ['\\', 'f']
  else if c = '\r' then ['\\', 'r']
  else if c.toNat < 32 then hexEscape c.toNat
  else [c]

/-- A string between quotes. -/
def quote (s : String) : List Char :=
  '"' :: s.toList.flatMap escapeChar ++ ['"']

/-! ### Numbers -/

/-- Floating-point numbers stand with their point in place from `1e-5` up to `1e16`. -/
def floatStyle : Decimal.Style :=
  ⟨fun point => -4 ≤ point && point ≤ 16⟩

/-! ### Values -/

/-- Where a line breaks before an element at this level. -/
def lineBreak : Option Nat → List Char
  | none => []
  | some depth => '\n' :: List.replicate (2 * depth) ' '

/-- What stands between a key and its value. -/
def colon : Option Nat → List Char
  | none => [':']
  | some _ => [':', ' ']

/-- What stands before an element: a comma unless it is the first, and the break of its line. -/
def lead (indent : Option Nat) (first : Bool) : List Char :=
  (if first then [] else [',']) ++ lineBreak indent

mutual

/-- Writes a value at a level of indentation. -/
def write (indent : Option Nat) : Json → List Char
  | null => ['n', 'u', 'l', 'l']
  | flag true => ['t', 'r', 'u', 'e']
  | flag false => ['f', 'a', 'l', 's', 'e']
  | integer i => (toString i).toList
  | float x => (floatStyle.write x).toList
  | text s => quote s
  | list [] => ['[', ']']
  | list (v :: r) =>
    '[' :: writeItems (indent.map (· + 1)) true (v :: r) ++ lineBreak indent ++ [']']
  | object [] => ['{', '}']
  | object (m :: r) =>
    '{' :: writeMembers (indent.map (· + 1)) true (m :: r) ++ lineBreak indent ++ ['}']

/-- Writes the elements of a list. -/
def writeItems (indent : Option Nat) (first : Bool) : List Json → List Char
  | [] => []
  | v :: r => lead indent first ++ write indent v ++ writeItems indent false r

/-- Writes the members of an object. -/
def writeMembers (indent : Option Nat) (first : Bool) : List (String × Json) → List Char
  | [] => []
  | (k, v) :: r =>
    lead indent first ++ quote k ++ colon indent ++ write indent v ++ writeMembers indent false r

end

/-- A value on one line, without blanks. -/
def compact (v : Json) : String :=
  String.ofList (v.write none)

/-- A value over several lines. -/
def pretty (v : Json) : String :=
  String.ofList (v.write (some 0))

end Json

end RealmRegistry
