/-
Reading a shaped value straight from a JSON text.

There is no value in between, so complaints come in the order of the text and each has a place:

* a scalar of the wrong kind is complained about after it, a bracket before it;
* a second member with the key of a field is complained about where its colon should come, or
  after the closing bracket that stands there;
* a missing field, or a list that is too short, after the closing bracket;
* the value of an unknown key is passed over.
-/
import RealmRegistry.Json.Skip
import RealmRegistry.Schema.Json

namespace RealmRegistry.Schema

open RealmRegistry.Text RealmRegistry.Json

/-- What can be wrong with a text that should have a certain shape. -/
inductive Flaw where
  | malformed (cause : SyntaxError)
  | unfit (cause : Mismatch)
deriving DecidableEq

/-- The words for a flaw. -/
def Flaw.message : Flaw → String
  | malformed cause => cause.message
  | unfit cause => cause.message Json.floatStyle

/-- What is wrong with a text, and where, if it is known where. -/
structure Complaint where
  cause : Flaw
  place : Option Position
deriving DecidableEq

/-- The words for a complaint. -/
def Complaint.message (c : Complaint) : String :=
  c.cause.message ++ (c.place.map Position.suffix).getD ""

/-- A fault of `text` with its line and column. -/
def Complaint.ofFault (text : List Char) (e : Fault Flaw) : Complaint :=
  ⟨e.cause, some (e.position text)⟩

/-- A fault of the text itself. -/
def malformed (e : Fault SyntaxError) : Fault Flaw := e.map .malformed

/-- A reader of the text as a reader of a shape. -/
def lift {α : Type} {s : List Char} (r : Except (Fault SyntaxError) (Taken α s)) :
    Except (Fault Flaw) (Taken α s) :=
  r.mapError malformed

/-- A reader that fails with flaws. -/
abbrev FlawReader (α : Type) : Type := Reader (Fault Flaw) α

/-! ### Values of the wrong kind -/

/-- The complaint about a value that is not of the kind `expected`. -/
def complain (expected : String) (s : List Char) : Fault Flaw :=
  let after (found : Found) (rest : List Char) : Fault Flaw :=
    .before (.unfit (.wrongKind found expected)) rest
  let word (letters r : List Char) (found : Found) : Fault Flaw :=
    match Json.readWord letters r with
    | .ok t => after found t.1
    | .error e => malformed e
  match skipSpace s with
  | [] => .before (.malformed .endInValue) []
  | c :: r =>
    if c = 'n' then word ['u', 'l', 'l'] r .null
    else if c = 't' then word ['r', 'u', 'e'] r (.flag true)
    else if c = 'f' then word ['a', 'l', 's', 'e'] r (.flag false)
    else if c = '"' then
      match Json.readText r with
      | .ok t => after (.text t.value) t.rest
      | .error e => malformed e
    else if c = '[' then after .list (c :: r)
    else if c = '{' then after .table (c :: r)
    else if c = '-' ∨ c.isDigit then
      match readNumber (c :: r) with
      | .ok t => after (match t.value with | .integer i => .integer i | .float x => .float x) t.rest
      | .error e => malformed e
    else .upon (.malformed .notValue) (c :: r)

/-! ### Scalars -/

/-- What is behind the first character that is no blank, if that character is `c`. -/
def afterChar? (c : Char) (s : List Char) : Option (Taken Unit s) :=
  (afterSpace s).first? c

/-- Reads the letters of a name that are behind its first one. -/
def nameFromText {α : Type} {s : List Char} (a : α) (word : List Char) (t : Taken Unit s) :
    Except (Fault Flaw) (Taken α s) :=
  lift ((Json.readWord word t.rest).map fun r => (t.leaving r).map fun _ => a)

/-- Reads a string. -/
def textFromText : FlawReader String := fun s =>
  match afterChar? '"' s with
  | some t => lift ((Json.readText t.rest).map t.next)
  | none => .error (complain Shape.text.expected s)

/-- Reads a truth value. -/
def flagFromText : FlawReader Bool := fun s =>
  match afterChar? 't' s with
  | some t => nameFromText true ['r', 'u', 'e'] t
  | none =>
    match afterChar? 'f' s with
    | some t => nameFromText false ['a', 'l', 's', 'e'] t
    | none => .error (complain Shape.flag.expected s)

/-- Reads a whole number of so many bits. -/
def wordFromText (width : Nat) : FlawReader (Fin (wordCount width)) := fun s =>
  match afterSpace s with
  | ⟨[], _⟩ => .error (complain (Shape.word width).expected s)
  | ⟨c :: r, h⟩ =>
    if c = '-' ∨ c.isDigit then
      match readNumber (c :: r) with
      | .error e => .error (malformed e)
      | .ok t =>
        match t.value with
        | .float _ => .error (complain (Shape.word width).expected s)
        | .integer i =>
          match Schema.readWord width i with
          | .ok n => .ok ((t.map fun _ => n).within h)
          | .error m => .error (.before (.unfit m) t.rest)
    else .error (complain (Shape.word width).expected s)

/-- Reads null, which is all that may stand beside the name of a choice. -/
def nullFromText : FlawReader Unit := fun s =>
  match afterChar? 'n' s with
  | some t => nameFromText () ['u', 'l', 'l'] t
  | none => .error (complain "unit" s)

/-- Reads the name of a choice after its opening quote. -/
def choiceNameFromText (first : String) (others : List String) :
    FlawReader (Fin (others.length + 1)) := fun s =>
  match Json.readText s with
  | .error e => .error (malformed e)
  | .ok t =>
    match readChoice first others t.value with
    | .ok i => .ok (t.map fun _ => i)
    | .error m => .error (.before (.unfit m) t.rest)

/-- Reads a choice that is given as an object, after its opening bracket: the name is the key of
its only member. -/
def choiceObjectFromText (first : String) (others : List String) :
    FlawReader (Fin (others.length + 1)) := fun s =>
  match afterChar? '"' s with
  | none =>
    match skipSpace s with
    | [] => .error (.before (.malformed .endInObject) [])
    | c :: r => .error (.upon (.malformed (if c = '}' then .notValue else .keyNotText)) (c :: r))
  | some t =>
    match choiceNameFromText first others t.rest with
    | .error e => .error e
    | .ok i =>
      match Json.readColon i.rest with
      | .error e => .error (malformed e)
      | .ok u =>
        match nullFromText u.1 with
        | .error e => .error e
        | .ok n =>
          match afterSpace n.rest with
          | ⟨[], _⟩ => .error (.before (.malformed .endInObject) [])
          | ⟨c :: r, h⟩ =>
            if c = '}' then .ok (t.next (i.leaving (u.next (n.left.next (.tail h)))))
            else .error (.before (.malformed .notValue) (c :: r))

/-- Reads a choice. -/
def choiceFromText (first : String) (others : List String) :
    FlawReader (Fin (others.length + 1)) := fun s =>
  match afterChar? '"' s with
  | some t => (choiceNameFromText first others t.rest).map t.next
  | none =>
    match afterChar? '{' s with
    | some t => (choiceObjectFromText first others t.rest).map t.next
    | none =>
      match skipSpace s with
      | [] => .error (.before (.malformed .endInValue) [])
      | r => .error (.upon (.malformed .notValue) r)

/-- Reads a field that may be null. -/
def optionalFromText {α : Type} (item : FlawReader α) : FlawReader (Option α) := fun s =>
  match afterChar? 'n' s with
  | some t => nameFromText none ['u', 'l', 'l'] t
  | none => (item s).map fun t => t.map some

/-- Reads a field. -/
def Presence.fromText (p : Presence) {α : Type} (item : FlawReader α) : FlawReader (p.Slot α) :=
  match p with
  | .required => item
  | .defaulted _ _ => item
  | .optional => optionalFromText item
  | .retired => optionalFromText item

/-! ### Lists and objects -/

/-- Reads the elements of a list up to its closing bracket. -/
def itemsFromText {α : Type} (item : FlawReader α) (first : Bool) (s : List Char) :
    Except (Fault Flaw) (List α × Rest s) :=
  match nextItem first s with
  | .error e => .error (malformed e)
  | .ok none => .ok ([], .all s)
  | .ok (some t) =>
    match item t.1 with
    | .error e => .error e
    | .ok a =>
      match itemsFromText item false a.rest with
      | .error e => .error e
      | .ok (as, r) => .ok (a.value :: as, t.next (a.left.next r))
termination_by s.length
decreasing_by exact (a.within t.2).shorter

/-- Reads a list after its opening bracket. -/
def listFromText {α : Type} (item : FlawReader α) : FlawReader (List α) := fun s =>
  match itemsFromText item true s with
  | .error e => .error e
  | .ok (as, ⟨r, h⟩) => lift ((endList r).map fun t => (t.map fun _ => as).within h)

/-- What to do with the value of a key. -/
inductive Placement (D : Type) where
  /-- no field has the key -/
  | unknown
  /-- the field has a value already -/
  | taken
  /-- the value is read into the draft -/
  | vacant (reader : FlawReader D)

/-- The complaint about a record, after the bracket that ends it. -/
def atEnd {α : Type} {s : List Char} (closed : Except (Fault SyntaxError) (Taken Unit s))
    (m : Mismatch) : Except (Fault Flaw) α :=
  match closed with
  | .ok t => .error (.before (.unfit m) t.rest)
  | .error e => .error ⟨.unfit m, e.left⟩

/-- The complaint about the key of a field that has a value already: where its colon should come,
or after the bracket that closes the object instead. -/
def repeated {α : Type} (key : String) (s : List Char) : Except (Fault Flaw) α :=
  match endObject s with
  | .ok t => .error (.before (.unfit (.duplicate key)) t.rest)
  | .error _ => .error (.before (.unfit (.duplicate key)) (skipSpace s))

/-- Reads the members of an object into a draft, up to the closing bracket. -/
def membersFromText {D : Type} (place : String → D → Placement D) (first : Bool) (draft : D)
    (s : List Char) : Except (Fault Flaw) (D × Rest s) :=
  match nextMember first s with
  | .error e => .error (malformed e)
  | .ok none => .ok (draft, .all s)
  | .ok (some t) =>
    match Json.readText t.1 with
    | .error e => .error (malformed e)
    | .ok k =>
      match place k.value draft with
      | .taken => repeated k.value k.rest
      | .unknown =>
        match Json.readColon k.rest with
        | .error e => .error (malformed e)
        | .ok r =>
          match skipValue r.1 with
          | .error e => .error (malformed e)
          | .ok v =>
            match membersFromText place false draft v.rest with
            | .error e => .error e
            | .ok (d, r') => .ok (d, t.next (k.left.next (r.next (v.left.next r'))))
      | .vacant reader =>
        match Json.readColon k.rest with
        | .error e => .error (malformed e)
        | .ok r =>
          match reader r.1 with
          | .error e => .error e
          | .ok v =>
            match membersFromText place false v.value v.rest with
            | .error e => .error e
            | .ok (d, r') => .ok (d, t.next (k.left.next (r.next (v.left.next r'))))
termination_by s.length
decreasing_by all_goals exact ((k.next (v.within r.2)).within t.2).shorter

/-- Reads the members of an object with keys of any name, after its opening bracket. -/
def dictFromText {α : Type} (item : FlawReader α) : FlawReader (Dict α) := fun s =>
  let place (k : String) (d : Dict α) : Placement (Dict α) :=
    .vacant (item.map (d.insert k))
  match membersFromText place true Dict.empty s with
  | .error e => .error e
  | .ok (d, ⟨r, h⟩) => lift ((endObject r).map fun t => (t.map fun _ => d).within h)

/-- Reads what an opening bracket starts; anything else is of the wrong kind. -/
def bracketed {α : Type} (bracket : Char) (expected : String) (body : FlawReader α) :
    FlawReader α := fun s =>
  match afterChar? bracket s with
  | some t => (body t.rest).map t.next
  | none => .error (complain expected s)

mutual

/-- Reads a value of a shape. -/
def Shape.fromText : (s : Shape) → FlawReader s.Carrier
  | .text => textFromText
  | .flag => flagFromText
  | .word width => wordFromText width
  | .choice first others => choiceFromText first others
  | .list item => bracketed '[' (Shape.list item).expected (listFromText item.fromText)
  | .dict item => bracketed '{' (Shape.dict item).expected (dictFromText item.fromText)
  | .record title fields => fun s =>
    match afterChar? '[' s with
    | some t =>
      match fields.itemsFromText (expectedLength title fields) 0 t.rest with
      | .error e => .error e
      | .ok (v, ⟨r, h⟩) => lift ((endList r).map fun u => t.next ((u.map fun _ => v).within h))
    | none =>
      match afterChar? '{' s with
      | some t =>
        match membersFromText fields.place true fields.blank t.rest with
        | .error e => .error e
        | .ok (draft, ⟨r, h⟩) =>
          match fields.finish draft with
          | .error m => atEnd (endObject r) m
          | .ok v => lift ((endObject r).map fun u => t.next ((u.map fun _ => v).within h))
      | none => .error (complain (Shape.record title fields).expected s)

/-- Where the value of a key goes. -/
def Layout.place : (fields : Layout) → String → fields.Draft → Placement fields.Draft
  | .nil, _, _ => .unknown
  | .cons key p s rest, k, (slot, more) =>
    if k = key then
      if slot.isSome then .taken
      else .vacant ((p.fromText s.fromText).map fun a => (some a, more))
    else
      match rest.place k more with
      | .unknown => .unknown
      | .taken => .taken
      | .vacant reader => .vacant (reader.map fun next => (slot, next))

/-- Reads the fields of a record from a list, in their order, up to its closing bracket or as far
as there are fields. -/
def Layout.itemsFromText (expected : String) :
    (fields : Layout) → (index : Nat) → (s : List Char) →
      Except (Fault Flaw) (fields.Carrier × Rest s)
  | .nil, _, s => .ok ((), .all s)
  | .cons _ p shape rest, index, s =>
    match nextItem (index == 0) s with
    | .error e => .error (malformed e)
    | .ok none =>
      match p.unreached? shape with
      | none => atEnd (endList s) (.wrongLength index expected)
      | some a =>
        (rest.itemsFromText expected (index + 1) s).map fun next => ((a, next.1), next.2)
    | .ok (some t) =>
      match p.fromText shape.fromText t.1 with
      | .error e => .error e
      | .ok a =>
        (rest.itemsFromText expected (index + 1) a.rest).map fun next =>
          ((a.value, next.1), t.next (a.left.next next.2))

end

/-- Reads a whole text as a value of a shape. -/
def Shape.parse (s : Shape) (text : List Char) : Except (Fault Flaw) s.Carrier := do
  let t ← s.fromText text
  (readEnd t.rest).mapError malformed
  return t.value

/-- Reads a whole text as a value of a shaped type. -/
def fromText (α : Type) [Shaped α] (text : String) : Except Complaint α :=
  match (Shaped.shape α).parse text.toList with
  | .ok v => .ok (Shaped.unpack v)
  | .error e => .error (.ofFault text.toList e)

end RealmRegistry.Schema
