/-
Percent encoding: `%41` stands for the byte of that number in base sixteen.

* `percentBytes` — the bytes of an encoded text;
* `formText`, `formOptions` — the same for the options of an address, in which a plus stands for a
  space.
-/
import RealmRegistry.Text.Digit
import RealmRegistry.Text.Split
import RealmRegistry.Text.Utf8

namespace RealmRegistry.Text

/-- The bytes of an encoded text.  A percent sign without two digits stands for itself. -/
def percentBytes : List Char → List Nat
  | '%' :: a :: b :: r =>
    match hexValue? a, hexValue? b with
    | some m, some n => (16 * m + n) :: percentBytes r
    | _, _ => Utf8.bytes ['%'] ++ percentBytes (a :: b :: r)
  | c :: r => Utf8.bytes [c] ++ percentBytes r
  | [] => []

/-- The name and the value of an option; one without an equals sign has an empty value. -/
def optionOf (s : List Char) : List Char × List Char :=
  let (name, value) := cut '=' s
  (name, value.getD [])

/-- The text of an encoded part of an option. -/
def formText (s : List Char) : String :=
  .ofList (Utf8.lenient (percentBytes (s.map fun c => if c = '+' then ' ' else c)))

/-- The options of a text; between two separators there need not be one. -/
def formOptions (s : List Char) : List (String × String) :=
  ((splitAt '&' s).filter (!·.isEmpty)).map fun o =>
    let (name, value) := optionOf o
    (formText name, formText value)

end RealmRegistry.Text
