/-
What can be wrong with a JSON text, and where.

A fault knows how many bytes of the text lie behind it, so readers need not count what they have
read; `Fault.position` turns that number into a line and a column.

* `Fault.before` — the fault lies before the rest of the text;
* `Fault.upon` — the fault is the first byte of the rest.
-/
import RealmRegistry.Text.Position

namespace RealmRegistry.Json

open RealmRegistry.Text

/-- The ways in which a text is no JSON text. -/
inductive SyntaxError where
  | endInValue
  | endInList
  | endInObject
  | endInText
  | notValue
  | notWord
  | keyNotText
  | trailingComma
  | noColon
  | noListSeparator
  | noObjectSeparator
  | trailing
  | badNumber
  | hugeNumber
  | badEscape
  | controlCharacter
  | unpairedSurrogate
  | loneSurrogate
  | tooDeep
deriving DecidableEq

/-- The words for a syntax error. -/
def SyntaxError.message : SyntaxError → String
  | endInValue => "EOF while parsing a value"
  | endInList => "EOF while parsing a list"
  | endInObject => "EOF while parsing an object"
  | endInText => "EOF while parsing a string"
  | notValue => "expected value"
  | notWord => "expected ident"
  | keyNotText => "key must be a string"
  | trailingComma => "trailing comma"
  | noColon => "expected `:`"
  | noListSeparator => "expected `,` or `]`"
  | noObjectSeparator => "expected `,` or `\x7d`"
  | trailing => "trailing characters"
  | badNumber => "invalid number"
  | hugeNumber => "number out of range"
  | badEscape => "invalid escape"
  | controlCharacter => "control character (\\u0000-\\u001F) found while parsing a string"
  | unpairedSurrogate => "unexpected end of hex escape"
  | loneSurrogate => "lone leading surrogate in hex escape"
  | tooDeep => "recursion limit exceeded"

/-- A cause, and the number of bytes of the text that lie behind its place. -/
structure Fault (ε : Type) where
  cause : ε
  left : Nat
deriving DecidableEq

namespace Fault

/-- A fault before `rest`. -/
def before {ε : Type} (cause : ε) (rest : List Char) : Fault ε :=
  ⟨cause, byteCount rest⟩

/-- A fault whose place is the first byte of `rest`, or the end of the text. -/
def upon {ε : Type} (cause : ε) (rest : List Char) : Fault ε :=
  ⟨cause, byteCount rest - 1⟩

/-- Changes the cause. -/
def map {ε δ : Type} (f : ε → δ) (e : Fault ε) : Fault δ :=
  ⟨f e.cause, e.left⟩

/-- The line and column of a fault in `text`. -/
def position {ε : Type} (e : Fault ε) (text : List Char) : Position :=
  Position.before text e.left

end Fault

end RealmRegistry.Json
