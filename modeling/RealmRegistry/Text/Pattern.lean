/-
Whether a text is a well-formed pattern, that is, a regular expression.

Groups, alternatives, repetitions and classes are as usual.  There are no references to groups, no
looking ahead or back, and no conditions on the borders of words.  A repetition with bounds in
braces is not admitted.

* `isPattern` — whether a text is a pattern;
* `behindClass?`, `behindGroup?` — what is behind a class, and behind the beginning of a group.
-/
import RealmRegistry.Text.Alphanumeric
import RealmRegistry.Text.Digit
import RealmRegistry.Text.Reader

namespace RealmRegistry.Text.Pattern

/-! ### Atoms -/

/-- What stands for characters. -/
inductive Atom where
  | one (c : Char)
  /-- several characters -/
  | several
  /-- no character, but a place between two -/
  | place
deriving DecidableEq

/-- A reader that may find nothing. -/
abbrev Finder (α : Type) : Type := (s : List Char) → Option (Taken α s)

/-- The number that so many digits in base sixteen make. -/
def hexNumber? (digits : Nat) (s : List Char) : Option Nat :=
  let ds := (s.take digits).filterMap hexValue?
  if ds.length = digits then some (ofDigits 16 ds) else none

/-- The character of a number with so many digits. -/
def numbered (digits : Nat) (c : Char) (s : List Char) : Option (Taken Atom (c :: s)) :=
  match hexNumber? digits s with
  | none => none
  | some n => if n.isValidChar then some (.upTo (.one (.ofNat n)) c (.drop digits s)) else none

/-- The general category of one letter that follows. -/
def category (c : Char) : (s : List Char) → Option (Taken Atom (c :: s))
  | [] => none
  | d :: r =>
    if ['c', 'l', 'm', 'n', 'p', 's', 'z'].contains d.toLower then
      some ((Taken.first .several d r).behind c)
    else none

/-- The letters of control characters. -/
def controls : List (Char × Char) :=
  [('a', '\x07'), ('f', '\x0c'), ('n', '\n'), ('r', '\r'), ('t', '\t'), ('v', '\x0b')]

/-- Whether a character may stand for itself behind a backslash. -/
def isPlainMark (c : Char) : Bool :=
  c.toNat < 0x80 && !c.isAlphanum && c != '<' && c != '>'

/-- Reads what follows a backslash. -/
def escaped : Finder Atom
  | [] => none
  | c :: r =>
    if isPlainMark c then some (.first (.one c) c r)
    else if c = 'x' then numbered 2 c r
    else if c = 'u' then numbered 4 c r
    else if c = 'U' then numbered 8 c r
    else if c = 'p' ∨ c = 'P' then category c r
    else if ['d', 'D', 's', 'S', 'w', 'W'].contains c then some (.first .several c r)
    else if c = 'A' ∨ c = 'z' then some (.first .place c r)
    else (controls.lookup c).map fun d => .first (.one d) c r

/-! ### Classes -/

/-- The named classes. -/
def classNames : List String :=
  ["alnum", "alpha", "ascii", "blank", "cntrl", "digit", "graph", "lower", "print", "punct",
    "space", "upper", "word", "xdigit"]

/-- The same text without a character at its front, if it is there. -/
def without (c : Char) (s : List Char) : Rest s :=
  match s with
  | [] => .all []
  | d :: r => if d = c then (Rest.all r).behind d else .all (d :: r)

/-- What is behind a named class whose opening bracket was read. -/
def behindNamed? (s : List Char) : Option (Rest s) :=
  let body := s.drop 1
  let name := (without '^' body).1.takeWhile (·.isAlpha)
  let read := 1 + (body.length - (without '^' body).1.length) + name.length
  if s.head? = some ':' ∧ classNames.contains (.ofList name) ∧
      (s.drop read).take 2 = [':', ']'] then
    some (.drop (read + 2) s)
  else none

/-- What is behind the signs at the beginning of a class that have a meaning of their own there. -/
def behindOpening (s : List Char) : Rest s :=
  let start := without '^' s
  let marks := Rest.dropWhile (· = '-') start.1
  start.next (if marks.1.length = start.1.length then without ']' start.1 else marks)

/-- Reads a character or kind of characters in a class. -/
def classAtom : Finder Atom
  | [] => none
  | c :: r => if c = '\\' then (escaped r).map (Taken.behind c) else some (.first (.one c) c r)

/-- Whether a text goes on with the end of a range. -/
def goesOn (s : List Char) : Bool :=
  s.head? == some '-' && (s.drop 1).head?.all fun c => c != ']' && c != '-'

/-- Reads a character, a kind of characters or a range in a class. -/
def classItem : Finder Unit := fun s =>
  match classAtom s with
  | none => none
  | some a =>
    if goesOn a.rest then
      match classAtom (a.rest.drop 1) with
      | none => none
      | some b =>
        match a.value, b.value with
        | .one c, .one d =>
          if c ≤ d then some ((a.map fun _ => ()).leaving ((Rest.drop 1 a.rest).next b.left))
          else none
        | _, _ => none
    else if a.value = .place then none
    else some (a.map fun _ => ())

/-- Whether a text begins with an operation on classes. -/
def isOperation (s : List Char) : Bool :=
  [['&', '&'], ['-', '-'], ['~', '~']].contains (s.take 2)

/-- What is behind a class in so many others, behind the signs of its beginning. -/
def behindClass? (depth : Nat) (s : List Char) : Option (Rest s) :=
  match s with
  | [] => none
  | c :: r =>
    if c = '[' then
      match behindNamed? r with
      | some n => (behindClass? depth n.1).map fun t => (n.next t).behind c
      | none =>
        let inner := behindOpening r
        (behindClass? (depth + 1) inner.1).map fun t => (inner.next t).behind c
    else if c = ']' then
      match depth with
      | 0 => some ((Rest.all r).behind c)
      | outer + 1 => (behindClass? outer r).map (Rest.behind c)
    else if isOperation (c :: r) then
      (behindClass? depth (r.drop 1)).map fun t => ((Rest.drop 1 r).next t).behind c
    else
      match classItem (c :: r) with
      | none => none
      | some t => (behindClass? depth t.rest).map t.left.next
termination_by s.length
decreasing_by
  · exact Nat.lt_succ_of_le n.2
  · exact Nat.lt_succ_of_le inner.2
  · exact Nat.lt_succ_self _
  · exact Nat.lt_succ_of_le (Rest.drop 1 r).2
  · exact t.shorter

/-! ### Groups -/

/-- The switches that a group may set or, behind a minus sign, unset. -/
def switches : List Char := ['i', 'm', 's', 'U', 'u', 'R', 'x']

/-- Whether switches are well formed: each at most once, and something behind a minus sign. -/
def areSwitches (s : List Char) : Bool :=
  s.all (fun c => c = '-' || switches.contains c) && decide s.Nodup && s.getLast? != some '-'

/-- Whether a text is the name of a group. -/
def isGroupName : List Char → Bool
  | [] => false
  | c :: r =>
    (c = '_' || (isAlphanumeric c && !c.isDigit)) &&
      r.all fun c => c = '_' || c = '.' || c = '[' || c = ']' || isAlphanumeric c

/-- What the beginning of a group says. -/
inductive Opening where
  | group (name : Option (List Char))
  /-- no group, but switches for what follows -/
  | switch

/-- The beginning of a group with a name, behind the sign that announces the name. -/
def namedGroup (s : List Char) : Option (Opening × Rest s) :=
  let name := s.takeWhile (· != '>')
  if isGroupName name ∧ name.length < s.length then
    some (.group (some name), .drop (name.length + 1) s)
  else none

/-- The beginning of a group behind its bracket and question mark. -/
def markedGroup (s : List Char) : Option (Opening × Rest s) :=
  match s with
  | '<' :: r => (namedGroup r).map fun (o, t) => (o, t.behind '<')
  | 'P' :: '<' :: r => (namedGroup r).map fun (o, t) => (o, (t.behind '<').behind 'P')
  | s =>
    let marks := s.takeWhile fun c => c != ':' && c != ')'
    if !areSwitches marks then none
    else
      match s.drop marks.length with
      | ':' :: _ => some (.group none, .drop (marks.length + 1) s)
      | ')' :: _ =>
        if marks.isEmpty then none else some (.switch, .drop (marks.length + 1) s)
      | _ => none

/-- What the beginning of a group says behind its bracket, and what is behind it. -/
def behindGroup? (s : List Char) : Option (Opening × Rest s) :=
  match s with
  | '?' :: r => (markedGroup r).map fun (o, t) => (o, t.behind '?')
  | s => some (.group none, .all s)

/-! ### Patterns -/

/-- Whether a text is the rest of a pattern with so many open groups, some of which have names.
What can be repeated stands before it or not. -/
def isRest (depth : Nat) (names : List (List Char)) (repeatable : Bool) (s : List Char) : Bool :=
  match s with
  | [] => depth == 0
  | c :: r =>
    if c = '(' then
      match behindGroup? r with
      | none => false
      | some (.switch, t) => isRest depth names false t.1
      | some (.group none, t) => isRest (depth + 1) names false t.1
      | some (.group (some name), t) =>
        !names.contains name && isRest (depth + 1) (name :: names) false t.1
    else if c = ')' then depth != 0 && isRest (depth - 1) names true r
    else if c = '|' then isRest depth names false r
    else if c = '*' ∨ c = '+' ∨ c = '?' then
      let t := without '?' r
      repeatable && isRest depth names true t.1
    else if c = '{' then false
    else if c = '[' then
      let inner := behindOpening r
      match behindClass? 0 inner.1 with
      | none => false
      | some t =>
        let u := inner.next t
        isRest depth names true u.1
    else if c = '\\' then
      match escaped r with
      | none => false
      | some t => isRest depth names true t.rest
    else isRest depth names true r
termination_by s.length
decreasing_by
  · exact Nat.lt_succ_of_le t.2
  · exact Nat.lt_succ_of_le t.2
  · exact Nat.lt_succ_of_le t.2
  · exact Nat.lt_succ_self _
  · exact Nat.lt_succ_self _
  · exact Nat.lt_succ_of_le t.2
  · exact Nat.lt_succ_of_le u.2
  · exact Nat.lt_succ_of_lt t.shorter
  · exact Nat.lt_succ_self _

/-- Whether a text is a pattern. -/
def isPattern (s : List Char) : Bool := isRest 0 [] false s

end RealmRegistry.Text.Pattern
