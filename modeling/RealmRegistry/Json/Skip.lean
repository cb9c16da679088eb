/-
Passing over a value that nobody asked for.

The value has to be well formed, but it may be nested to any depth, its numbers may be of any
size and its escapes need not make characters.  `skipValue` keeps the open brackets in a list and
goes through the text once.
-/
import RealmRegistry.Json.Parser

namespace RealmRegistry.Json

open RealmRegistry.Text

/-! ### Strings and numbers -/

/-- Passes over the characters of a string up to its closing quote. -/
def skipChars (s : List Char) : Except (Fault SyntaxError) (Taken Unit s) :=
  match s with
  | [] => .error (.before .endInText [])
  | c :: r =>
    if c = '"' then .ok (.first () c r)
    else if c = '\\' then
      match r with
      | [] => .error (.before .endInText [])
      | d :: r' =>
        if (letterEscape? d).isSome then
          (skipChars r').map fun t => (t.behind d).behind c
        else if d = 'u' then
          match readHex4 r' with
          | .error e => .error e
          | .ok t => (skipChars t.rest).map fun u => ((t.next u).behind d).behind c
        else .error (.upon .badEscape (d :: r'))
    else if c.toNat < 32 then .error (.before .controlCharacter (c :: r))
    else (skipChars r).map (Taken.behind c)
termination_by s.length
decreasing_by
  · exact ((Taken.first () d r').behind c).shorter
  · exact ((t.behind d).behind c).shorter
  · exact length_lt_cons c r

/-- Passes over the digits of an exponent, of which there has to be one. -/
def skipExponentDigits (s : List Char) : Except (Fault SyntaxError) (Rest s) :=
  match s with
  | c :: r =>
    if c.isDigit then .ok ((Rest.dropWhile Char.isDigit r).behind c)
    else .error (.upon .badNumber (c :: r))
  | [] => .error (.before .badNumber [])

/-- Passes over an exponent, if there is one. -/
def skipExponent (s : List Char) : Except (Fault SyntaxError) (Rest s) :=
  match s with
  | [] => .ok (.all [])
  | c :: r =>
    if c = 'e' ∨ c = 'E' then
      let t := (readSign r).2
      (skipExponentDigits t.1).map fun u => (t.next u).behind c
    else .ok (.all (c :: r))

/-- Passes over what follows the whole part of a number. -/
def skipFraction (s : List Char) : Except (Fault SyntaxError) (Rest s) :=
  match s with
  | '.' :: c :: r =>
    if c.isDigit then
      let t := Rest.dropWhile Char.isDigit r
      (skipExponent t.1).map fun u => ((t.next u).behind c).behind '.'
    else .error (.upon .badNumber (c :: r))
  | '.' :: [] => .error (.before .badNumber [])
  | s => skipExponent s

/-- Passes over a number after its sign. -/
def skipUnsigned (s : List Char) : Except (Fault SyntaxError) (Taken Unit s) :=
  match s with
  | [] => .error (.before .badNumber [])
  | c :: r =>
    if c = '0' then
      match r with
      | d :: r' =>
        if d.isDigit then .error (.upon .badNumber (d :: r'))
        else (skipFraction (d :: r')).map (Taken.upTo () c)
      | [] => .ok (.first () c [])
    else if c.isDigit then
      let t := Rest.dropWhile Char.isDigit r
      (skipFraction t.1).map fun u => .upTo () c (t.next u)
    else .error (.upon .badNumber (c :: r))

/-- Passes over a number. -/
def skipNumber (s : List Char) : Except (Fault SyntaxError) (Taken Unit s) :=
  match s with
  | '-' :: r => (skipUnsigned r).map (Taken.behind '-')
  | s => skipUnsigned s

/-- Passes over a value without brackets, from its first character. -/
def skipScalar (c : Char) (r : List Char) : Except (Fault SyntaxError) (Taken Unit (c :: r)) :=
  if c = 'n' then readName () c ['u', 'l', 'l'] r
  else if c = 't' then readName () c ['r', 'u', 'e'] r
  else if c = 'f' then readName () c ['a', 'l', 's', 'e'] r
  else if c = '"' then (skipChars r).map (Taken.behind c)
  else if c = '-' ∨ c.isDigit then skipNumber (c :: r)
  else .error (.upon .notValue (c :: r))

/-! ### Values -/

/-- An open bracket. -/
inductive Bracket where
  | list
  | object
deriving DecidableEq

/-- The fault of a text that ends within this bracket. -/
def Bracket.endInside : Bracket → SyntaxError
  | list => .endInList
  | object => .endInObject

/-- The fault of an element that is not followed by a comma or the closing bracket. -/
def Bracket.noSeparator : Bracket → SyntaxError
  | list => .noListSeparator
  | object => .noObjectSeparator

/-- The bracket that closes this one. -/
def Bracket.close : Bracket → Char
  | list => ']'
  | object => '}'

/-- The bracket that a character opens. -/
def Bracket.ofChar? : Char → Option Bracket
  | '[' => some .list
  | '{' => some .object
  | _ => none

/-- Passes over a key and its colon, up to the value. -/
def skipKey (s : List Char) : Except (Fault SyntaxError) (Rest s) :=
  match afterSpace s with
  | ⟨[], _⟩ => .error (.before .endInObject [])
  | ⟨c :: r, h⟩ =>
    if c = '"' then
      match skipChars r with
      | .error e => .error e
      | .ok t => (readColon t.rest).map fun u => ((t.left.next u).behind c).within h
    else .error (.upon .keyNotText (c :: r))

/-- Passes over a key if the bracket asks for one. -/
def Bracket.skipKey (b : Bracket) (s : List Char) : Except (Fault SyntaxError) (Rest s) :=
  match b with
  | .list => .ok (.all s)
  | .object => Json.skipKey s

mutual

/-- Passes over a value and over what is left of the brackets around it. -/
def skipValueIn (opened : List Bracket) (s : List Char) :
    Except (Fault SyntaxError) (Taken Unit s) :=
  match afterSpace s with
  | ⟨[], _⟩ => .error (.before .endInValue [])
  | ⟨c :: r, h⟩ =>
    match Bracket.ofChar? c with
    | some b =>
      match afterSpace r with
      | ⟨[], _⟩ => .error (.before b.endInside [])
      | ⟨d :: r', h'⟩ =>
        if d = b.close then
          (skipRestIn opened r').map fun t => (Taken.upTo () c ((t.behind d).within h')).within h
        else
          match b.skipKey (d :: r') with
          | .error e => .error e
          | .ok ⟨t, ht⟩ =>
            (skipValueIn (b :: opened) t).map fun u =>
              (((u.within ht).within h').behind c).within h
    | none =>
      match skipScalar c r with
      | .error e => .error e
      | .ok t => (skipRestIn opened t.rest).map fun u => (t.leaving u).within h
termination_by s.length
decreasing_by
  · exact Nat.lt_of_le_of_lt (Rest.tail h').2 h
  · exact Nat.lt_of_le_of_lt (Nat.le_trans ht h') h
  · exact (t.within h).shorter

/-- Passes over what follows an element within open brackets. -/
def skipRestIn (opened : List Bracket) (s : List Char) :
    Except (Fault SyntaxError) (Rest s) :=
  match opened with
  | [] => .ok (.all s)
  | b :: outer =>
    match afterSpace s with
    | ⟨[], _⟩ => .error (.before b.endInside [])
    | ⟨c :: r, h⟩ =>
      if c = ',' then
        match b.skipKey r with
        | .error e => .error e
        | .ok ⟨t, ht⟩ =>
          (skipValueIn (b :: outer) t).map fun u => ((u.left.within ht).behind c).within h
      else if c = b.close then
        (skipRestIn outer r).map fun t => (t.behind c).within h
      else .error (.upon b.noSeparator (c :: r))
termination_by s.length
decreasing_by
  · exact Nat.lt_of_le_of_lt ht h
  · exact h

end

/-- Passes over one value. -/
def skipValue : Reader (Fault SyntaxError) Unit :=
  skipValueIn []

end RealmRegistry.Json
