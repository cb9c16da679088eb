/-
Filters: which entries a log takes, as directives say.

A filter is written as directives between commas.  A directive is a limit, or a source, or both, as
in `sqlx=warn`; in brackets it can name a span and, in braces, a field, which may have to match a
pattern.  A directive with a span or a pattern is about what happens in spans only.

* `Directive.parse?` — the directive of a text;
* `Filter.parse?` — the filter of a text;
* `Filter.admits` — whether a filter lets an entry through: the directive with the longest source
  decides.
-/
import RealmRegistry.Log.Entry
import RealmRegistry.Text.Blank
import RealmRegistry.Text.Pattern
import RealmRegistry.Text.Split

namespace RealmRegistry.Log

open Text

/-! ### Limits -/

/-- The number of a text, which may have a plus sign. -/
def number? (s : List Char) : Option Nat :=
  let digits := if s.head? = some '+' then s.drop 1 else s
  if digits.isEmpty ∨ !digits.all Char.isDigit then none
  else some (ofDigits 10 (digits.filterMap (digitValue? 10)))

/-- The limit of a name, in letters of either case, or of a number. -/
def limit? (s : List Char) : Option Limit :=
  let limits : List Limit := none :: Level.all.map some
  match number? s with
  | some n => limits[n]?
  | none =>
    let name := String.ofList (s.map Char.toUpper)
    if name = "OFF" then some none else (Level.all.find? (·.name == name)).map some

/-! ### Directives -/

/-- A field that something has to have. -/
structure Demand where
  field : List Char
  /-- whether it has to have a certain value -/
  valued : Bool

/-- What is let through of some sources, or of spans. -/
structure Directive where
  /-- how the names of the sources begin -/
  source : Option (List Char)
  span : Option (List Char)
  demand : Option Demand
  limit : Limit

/-- Whether a text is a number with a plus sign; one without is also a pattern. -/
def isSignedNumber (s : List Char) : Bool :=
  match s with
  | '+' :: r =>
    let whole := r.takeWhile Char.isDigit
    let behindWhole := r.drop whole.length
    let part :=
      if behindWhole.head? = some '.' then (behindWhole.drop 1).takeWhile Char.isDigit else []
    let behindPart :=
      if behindWhole.head? = some '.' then behindWhole.drop (part.length + 1) else behindWhole
    let isExponent : List Char → Bool
      | e :: digits =>
        let unsigned :=
          if digits.head? = some '-' ∨ digits.head? = some '+' then digits.drop 1 else digits
        (e = 'e' || e = 'E') && !unsigned.isEmpty && unsigned.all Char.isDigit
      | [] => true
    ["inf", "infinity", "nan"].contains (.ofList (r.map Char.toLower)) ||
      ((!whole.isEmpty || !part.isEmpty) && isExponent behindPart)
  | _ => false

/-- Reads what is demanded of a field: its name, or its name and a value. -/
def demand? (s : List Char) : Option Demand :=
  match s, splitAt '=' s with
  | [], _ => none
  | _, name :: value :: _ =>
    if Pattern.isPattern value || isSignedNumber value then some ⟨name, true⟩ else none
  | _, [name] => some ⟨name, false⟩
  | _, [] => none

/-- The limit that is written at the end of a directive, or that of a directive without one. -/
def endLimit? (s : List Char) : Option Limit :=
  if s.isEmpty then some (some .trace) else limit? s

namespace Directive

/-- The part of a text from `start` to `stop`. -/
def part (s : List Char) (start stop : Nat) : List Char := (s.take stop).drop start

/-- The end of a directive: nothing, or a limit. -/
def ending? (raw body : List Char) (place : Nat) (d : Limit → Directive) : Option Directive :=
  match body.drop place with
  | [] => some (d (some .trace))
  | '=' :: _ => (endLimit? (raw.drop (place + 1))).map d
  | _ => none

/-- The rest of a directive behind an opening bracket. -/
def bracketed? (raw body : List Char) (start : Nat) (source : Option (List Char)) :
    Option Directive :=
  let stop := start + ((body.drop start).takeWhile fun c => c != ']' && c != '{').length
  let span := part raw start stop
  match body.drop stop with
  | ']' :: _ => ending? raw body (stop + 1) fun l => ⟨source, some span, none, l⟩
  | '{' :: r =>
    let close := stop + 1 + (r.takeWhile (· != '}')).length
    let span := if span.isEmpty then none else some span
    if (body.drop close).take 2 = ['}', ']'] then do
      let demand ← demand? (part raw (stop + 1) close)
      ending? raw body (close + 2) fun l => ⟨source, span, some demand, l⟩
    else none
  | _ => none

/-- Whether a character can be the first of a directive without brackets. -/
def isStart (c : Char) : Bool := c = '-' || c = ':' || c = '_' || isAlphanumeric c

/-- The directive of a text.  Its parts are found without regard to the blanks at its ends, but by
where they are they are taken from the text as a whole, so blanks in front move every part. -/
def parse? (raw : List Char) : Option Directive :=
  let body := trimChars raw
  match body with
  | [] => none
  | c :: _ =>
    if c = '[' then bracketed? raw body 1 none
    else if !isStart c then none
    else
      let stop := (body.takeWhile fun c => c != '=' && c != '[').length
      let source := some (part raw 0 stop)
      match body.drop stop with
      | [] =>
        match limit? raw with
        | some l => some ⟨none, none, none, l⟩
        | none => some ⟨some raw, none, none, some .trace⟩
      | '[' :: _ => bracketed? raw body (stop + 1) source
      | _ => ending? raw body stop fun l => ⟨source, none, none, l⟩

/-- Whether a directive is about spans only. -/
def isAboutSpans (d : Directive) : Bool :=
  d.span.isSome || (d.demand.map Demand.valued).getD false

/-- Whether a directive is about an entry. -/
def concerns (d : Directive) (e : Entry) : Bool :=
  let names := "message" :: e.fields.map Field.name
  (d.source.getD []).isPrefixOf e.source.toList &&
    (d.demand.map fun m => names.contains (.ofList m.field)).getD true

/-- How special a directive is: by the length of its source, then by whether it names a field. -/
def weight (d : Directive) : Nat :=
  let length := (d.source.map fun s => (String.ofList s).utf8ByteSize + 1).getD 0
  2 * length + (if d.demand.isSome then 1 else 0)

/-- The name of the field that a directive demands, if it demands one. -/
def fieldName (d : Directive) : String := .ofList ((d.demand.map Demand.field).getD [])

end Directive

/-! ### Filters -/

/-- A filter. -/
structure Filter where
  directives : List Directive

namespace Filter

/-- The filter of a text; between two commas there need not be a directive. -/
def parse? (text : String) : Option Filter :=
  ((splitAt ',' text.toList).filter (!·.isEmpty)).mapM Directive.parse? |>.map .mk

/-- The filter that takes what is not less important than a level. -/
def upTo (level : Level) : Filter := ⟨[⟨none, none, none, some level⟩]⟩

/-- The more special one of two directives; if they are equally special, the one whose field has
the greater name, or else the second. -/
def moreSpecial (first : Option Directive) (second : Directive) : Option Directive :=
  match first with
  | none => some second
  | some d =>
    if second.weight < d.weight ∨ second.weight = d.weight ∧ second.fieldName < d.fieldName then
      some d
    else some second

/-- The directives that entries go by; without any directive, errors are let through. -/
def applicable (f : Filter) : List Directive :=
  if f.directives.isEmpty then (upTo .error).directives
  else f.directives.filter (!·.isAboutSpans)

/-- Whether a filter lets an entry through. -/
def admits (f : Filter) (e : Entry) : Bool :=
  match (f.applicable.filter (·.concerns e)).foldl moreSpecial none with
  | some d => d.limit.admits e.level
  | none => false

/-- A filter up to a level looks at nothing but levels. -/
@[simp] theorem admits_upTo (level : Level) (e : Entry) :
    (upTo level).admits e = decide (e.level.rank ≤ level.rank) := by
  simp [admits, applicable, upTo, Directive.isAboutSpans, Directive.concerns, moreSpecial,
    Limit.admits]

end Filter

end RealmRegistry.Log
