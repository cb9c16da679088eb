/-
Places in a text, counted the way diagnostics count them: lines from one, and within a line the
bytes of the UTF-8 form.
-/
namespace RealmRegistry.Text

/-- The number of bytes of a text in UTF-8. -/
def byteCount : List Char → Nat
  | [] => 0
  | c :: r => c.utf8Size + byteCount r

/-- A line, counted from one, and the number of bytes read on it. -/
structure Position where
  line : Nat
  column : Nat
deriving DecidableEq

namespace Position

/-- The place before anything was read. -/
def start : Position := ⟨1, 0⟩

/-- The place after `n` more bytes of a text; the count may end inside a character. -/
def after (p : Position) : Nat → List Char → Position
  | _, [] => p
  | n, c :: r =>
    if n < c.utf8Size then ⟨p.line, p.column + n⟩
    else if c = '\n' then after ⟨p.line + 1, 0⟩ (n - 1) r
    else after ⟨p.line, p.column + c.utf8Size⟩ (n - c.utf8Size) r

/-- The place in `text` that has `left` bytes behind it. -/
def before (text : List Char) (left : Nat) : Position :=
  start.after (byteCount text - left) text

/-- How a message names a place. -/
def suffix (p : Position) : String :=
  s!" at line {p.line} column {p.column}"

end Position

end RealmRegistry.Text
