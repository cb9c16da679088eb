/-
TOML values.

A table holds its members in the order of the document; an array whose elements were given by
headers of their own is kept apart from an inline one.
-/
import RealmRegistry.Decimal.Double

namespace RealmRegistry

/-- A TOML value. -/
inductive Toml where
  | flag (b : Bool)
  | integer (i : Int)
  | float (x : Double)
  | text (s : String)
  /-- a date, a time or both, as it is written -/
  | moment (written : String)
  | list (items : List Toml)
  | table (members : List (String × Toml))
  /-- tables with a header for each -/
  | tables (elements : List (List (String × Toml)))

namespace Toml

/-- A key and the keys of the tables that it is in. -/
structure Path where
  parents : List String
  key : String
deriving DecidableEq

namespace Path

/-- All keys from the outermost. -/
def keys (p : Path) : List String := p.parents ++ [p.key]

/-- The path of a key of a table at `parents`. -/
def below (parent : String) (p : Path) : Path := { p with parents := parent :: p.parents }

end Path

/-- A line of a document. -/
inductive Line where
  | entry (path : Path) (value : Toml)
  /-- the entries that follow are those of a table -/
  | table (path : Path)
  /-- the entries that follow are those of a further element of an array -/
  | element (path : Path)

/-! ### Characters -/

/-- A blank within a line. -/
def isSpace (c : Char) : Bool := c == ' ' || c == '\t'

/-- The text from its first character that is no blank. -/
def skipSpace (s : List Char) : List Char := s.dropWhile isSpace

/-- A character that may stand in a comment or between quotes. -/
def isPlain (c : Char) : Bool := c == '\t' || (0x20 ≤ c.toNat && c.toNat != 0x7f)

/-- A character of a key that needs no quotes. -/
def isBare (c : Char) : Bool := c.isAlphanum || c == '_' || c == '-'

end Toml

end RealmRegistry
