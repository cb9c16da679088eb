/-
Writing a TOML document.

A table is taken apart into lines first: its own entries, then each table in it with a header of
its own.  A table without own entries has no header unless nothing at all is in it.

* `Toml.lines` — the lines of the outermost table;
* `render` — the text of lines.
-/
import RealmRegistry.Decimal.Layout
import RealmRegistry.Toml.Text

namespace RealmRegistry.Toml

/-! ### Values on a line -/

/-- A key, between quotes if it needs them. -/
def writeKey (k : String) : List Char :=
  let cs := k.toList
  if !cs.isEmpty && cs.all isBare then cs else Form.basic.write cs

/-- The keys of a path with dots between them. -/
def writePath (p : Path) : List Char :=
  p.parents.flatMap (fun k => writeKey k ++ ['.']) ++ writeKey p.key

/-- Floating-point numbers always stand with their point in place. -/
def floatStyle : Decimal.Style := ⟨fun _ => true⟩

/-- A number of double precision. -/
def writeFloat (x : Double) : List Char :=
  match x.magnitude with
  | .nan => ['n', 'a', 'n']
  | _ => (floatStyle.write x).toList

mutual

/-- A value within a line. -/
def write : Toml → List Char
  | .flag true => ['t', 'r', 'u', 'e']
  | .flag false => ['f', 'a', 'l', 's', 'e']
  | .integer i => (toString i).toList
  | .float x => writeFloat x
  | .text s => quote s
  | .moment written => written.toList
  | .list items => '[' :: writeItems true items ++ [']']
  | .table [] => ['{', '}']
  | .table (m :: r) => ['{', ' '] ++ writeMembers true (m :: r) ++ [' ', '}']
  | .tables elements => '[' :: writeElements true elements ++ [']']

/-- The elements of an array. -/
def writeItems (first : Bool) : List Toml → List Char
  | [] => []
  | v :: r => (if first then [] else [',', ' ']) ++ write v ++ writeItems false r

/-- The members of an inline table. -/
def writeMembers (first : Bool) : List (String × Toml) → List Char
  | [] => []
  | (k, v) :: r =>
    (if first then [] else [',', ' ']) ++ writeKey k ++ [' ', '=', ' '] ++ write v ++
      writeMembers false r

/-- The tables of an array, inline. -/
def writeElements (first : Bool) : List (List (String × Toml)) → List Char
  | [] => []
  | ms :: r =>
    (if first then [] else [',', ' ']) ++ ['{', ' '] ++ writeMembers true ms ++ [' ', '}'] ++
      writeElements false r

end

/-! ### Lines -/

/-- Whether a value stands on a line of its table. -/
def isInline : Toml → Bool
  | .table _ => false
  | .tables _ => false
  | _ => true

/-- The lines of a table's own entries. -/
def entryLines (ms : List (String × Toml)) : List Line :=
  (ms.filter fun m => isInline m.2).map fun m => .entry ⟨[], m.1⟩ m.2

/-- The header of a table: there is none if all that is in it are other tables. -/
def headerLines (p : Path) (ms : List (String × Toml)) : List Line :=
  if ms.isEmpty || ms.any fun m => isInline m.2 then [.table p] else []

mutual

/-- The lines of a value that has headers of its own. -/
def innerLines (p : Path) : Toml → List Line
  | .table ms => headerLines p ms ++ entryLines ms ++ tableLines p.keys ms
  | .tables elements => elementLines p elements
  | _ => []

/-- The lines of the tables in a table. -/
def tableLines (parents : List String) : List (String × Toml) → List Line
  | [] => []
  | (k, v) :: r => innerLines ⟨parents, k⟩ v ++ tableLines parents r

/-- The lines of the elements of an array of tables. -/
def elementLines (p : Path) : List (List (String × Toml)) → List Line
  | [] => []
  | ms :: r => .element p :: entryLines ms ++ tableLines p.keys ms ++ elementLines p r

end

/-- The lines of the outermost table. -/
def lines (ms : List (String × Toml)) : List Line :=
  entryLines ms ++ tableLines [] ms

/-! ### Text -/

/-- The blank line before a header that is not the first line. -/
def gap (first : Bool) : List Char := if first then [] else ['\n']

/-- The text of a line. -/
def writeLine (first : Bool) : Line → List Char
  | .entry p v => writePath p ++ [' ', '=', ' '] ++ write v ++ ['\n']
  | .table p => gap first ++ '[' :: writePath p ++ [']', '\n']
  | .element p => gap first ++ ['[', '['] ++ writePath p ++ [']', ']', '\n']

/-- The text of lines. -/
def render (first : Bool) : List Line → List Char
  | [] => []
  | l :: r => writeLine first l ++ render false r

end RealmRegistry.Toml
