/-
Reading a JSON text into a value.

The steps between the elements of a list and between the members of an object (`nextItem`,
`nextMember`, `readColon`, `endList`, `endObject`) are shared with the readers that go straight from
the text to a record.

* `readValue` — a value with at most so many levels of brackets;
* `parse` — a whole text; the members of its objects are sorted by key, and of two members with
  one key the later one counts.
-/
import RealmRegistry.Dict
import RealmRegistry.Json.Lexeme

namespace RealmRegistry.Json

open RealmRegistry.Text

/-! ### Between elements -/

/-- The rest at the next element of a list, or nothing at its closing bracket. -/
def nextItem (first : Bool) (s : List Char) : Except (Fault SyntaxError) (Option (Rest s)) :=
  match afterSpace s with
  | ⟨[], _⟩ => .error (.before .endInList [])
  | ⟨c :: r, h⟩ =>
    if c = ']' then .ok none
    else if first then .ok (some ⟨c :: r, h⟩)
    else if c = ',' then
      match afterSpace r with
      | ⟨[], _⟩ => .error (.before .endInValue [])
      | ⟨d :: r', h'⟩ =>
        if d = ']' then .error (.upon .trailingComma (d :: r'))
        else .ok (some ((Rest.behind c ⟨d :: r', h'⟩).within h))
    else .error (.upon .noListSeparator (c :: r))

/-- The rest after the opening quote of the next key of an object, or nothing at its closing
bracket. -/
def nextMember (first : Bool) (s : List Char) : Except (Fault SyntaxError) (Option (Rest s)) :=
  match afterSpace s with
  | ⟨[], _⟩ => .error (.before .endInObject [])
  | ⟨c :: r, h⟩ =>
    if c = '}' then .ok none
    else if first then
      if c = '"' then .ok (some (.tail h)) else .error (.upon .keyNotText (c :: r))
    else if c = ',' then
      match afterSpace r with
      | ⟨[], _⟩ => .error (.before .endInValue [])
      | ⟨d :: r', h'⟩ =>
        if d = '"' then .ok (some (((Rest.tail h').behind c).within h))
        else if d = '}' then .error (.upon .trailingComma (d :: r'))
        else .error (.upon .keyNotText (d :: r'))
    else .error (.upon .noObjectSeparator (c :: r))

/-- Reads the colon after a key. -/
def readColon (s : List Char) : Except (Fault SyntaxError) (Rest s) :=
  match afterSpace s with
  | ⟨[], _⟩ => .error (.before .endInObject [])
  | ⟨c :: r, h⟩ => if c = ':' then .ok (.tail h) else .error (.upon .noColon (c :: r))

/-- Reads the closing bracket of a list; a comma before it means that there is more than was asked
for. -/
def endList (s : List Char) : Except (Fault SyntaxError) (Taken Unit s) :=
  match afterSpace s with
  | ⟨[], _⟩ => .error (.before .endInList [])
  | ⟨c :: r, h⟩ =>
    if c = ']' then .ok ⟨(), r, h⟩
    else if c = ',' then
      match skipSpace r with
      | ']' :: r' => .error (.upon .trailingComma (']' :: r'))
      | r' => .error (.upon .trailing r')
    else .error (.upon .trailing (c :: r))

/-- Reads the closing bracket of an object. -/
def endObject (s : List Char) : Except (Fault SyntaxError) (Taken Unit s) :=
  match afterSpace s with
  | ⟨[], _⟩ => .error (.before .endInObject [])
  | ⟨c :: r, h⟩ =>
    if c = '}' then .ok ⟨(), r, h⟩
    else if c = ',' then .error (.upon .trailingComma (c :: r))
    else .error (.upon .trailing (c :: r))

/-! ### Lists and objects -/

/-- Reads the elements of a list up to its closing bracket. -/
def readItems (item : Reader (Fault SyntaxError) Json) (first : Bool) (s : List Char) :
    Except (Fault SyntaxError) (List Json × Rest s) :=
  match nextItem first s with
  | .error e => .error e
  | .ok none => .ok ([], .all s)
  | .ok (some t) =>
    match item t.1 with
    | .error e => .error e
    | .ok v =>
      match readItems item false v.rest with
      | .error e => .error e
      | .ok (vs, r) => .ok (v.value :: vs, t.next (v.left.next r))
termination_by s.length
decreasing_by exact (v.within t.2).shorter

/-- Reads the members of an object up to its closing bracket. -/
def readMembers (value : Reader (Fault SyntaxError) Json) (first : Bool) (s : List Char) :
    Except (Fault SyntaxError) (List (String × Json) × Rest s) :=
  match nextMember first s with
  | .error e => .error e
  | .ok none => .ok ([], .all s)
  | .ok (some t) =>
    match readText t.1 with
    | .error e => .error e
    | .ok k =>
      match readColon k.rest with
      | .error e => .error e
      | .ok r =>
        match value r.1 with
        | .error e => .error e
        | .ok v =>
          match readMembers value false v.rest with
          | .error e => .error e
          | .ok (ms, r') =>
            .ok ((k.value, v.value) :: ms, t.next (k.left.next (r.next (v.left.next r'))))
termination_by s.length
decreasing_by exact ((k.next (v.within r.2)).within t.2).shorter

/-- Reads a list after its opening bracket. -/
def readList (item : Reader (Fault SyntaxError) Json) : Reader (Fault SyntaxError) Json := fun s =>
  match readItems item true s with
  | .error e => .error e
  | .ok (vs, ⟨r, h⟩) =>
    (endList r).map fun t => (t.map fun _ => Json.list vs).within h

/-- Reads an object after its opening bracket. -/
def readObject (value : Reader (Fault SyntaxError) Json) : Reader (Fault SyntaxError) Json := fun s =>
  match readMembers value true s with
  | .error e => .error e
  | .ok (ms, ⟨r, h⟩) =>
    (endObject r).map fun t => (t.map fun _ => Json.object (Dict.ofList ms).entries).within h

/-! ### Values -/

/-- Reads the letters of a name that are behind its first one. -/
def readName {α : Type} (a : α) (c : Char) (word r : List Char) :
    Except (Fault SyntaxError) (Taken α (c :: r)) :=
  (readWord word r).map (Taken.upTo a c)

/-- The value that a number is. -/
def ofNumber : Number → Json
  | .integer i => .integer i
  | .float x => .float x

/-- Reads a value from its first character, given readers for what follows an opening bracket. -/
def readFrom (list object : Reader (Fault SyntaxError) Json) (c : Char) (r : List Char) :
    Except (Fault SyntaxError) (Taken Json (c :: r)) :=
  if c = 'n' then readName .null c ['u', 'l', 'l'] r
  else if c = 't' then readName (.flag true) c ['r', 'u', 'e'] r
  else if c = 'f' then readName (.flag false) c ['a', 'l', 's', 'e'] r
  else if c = '"' then (readText r).map fun t => (t.map Json.text).behind c
  else if c = '[' then (list r).map (Taken.behind c)
  else if c = '{' then (object r).map (Taken.behind c)
  else if c = '-' ∨ c.isDigit then (readNumber (c :: r)).map (Taken.map ofNumber)
  else .error (.upon .notValue (c :: r))

/-- Reads a value and the blanks before it, given readers for what follows an opening bracket. -/
def readWith (list object : Reader (Fault SyntaxError) Json) : Reader (Fault SyntaxError) Json :=
  fun s =>
    match afterSpace s with
    | ⟨[], _⟩ => .error (.before .endInValue [])
    | ⟨c :: r, h⟩ => (readFrom list object c r).map fun t => t.within h

/-- Reads a value whose brackets are at most `depth` deep. -/
def readValue : (depth : Nat) → Reader (Fault SyntaxError) Json
  | 0 => readWith (fun r => .error (.before .tooDeep r)) fun r => .error (.before .tooDeep r)
  | depth + 1 => readWith (readList (readValue depth)) (readObject (readValue depth))

/-- The number of levels of brackets that a text may have. -/
def maxDepth : Nat := 127

/-- Whether nothing but blanks is left. -/
def readEnd (s : List Char) : Except (Fault SyntaxError) Unit :=
  match skipSpace s with
  | [] => .ok ()
  | r => .error (.upon .trailing r)

/-- Reads a whole text. -/
def parse (s : List Char) : Except (Fault SyntaxError) Json := do
  let t ← readValue maxDepth s
  readEnd t.rest
  return t.value

end RealmRegistry.Json
