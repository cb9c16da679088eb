/-
Reading from the front of a text.

A text is a list of characters.  A reader answers with what it found and with the rest of the
text, and the rest is strictly shorter (`Taken.shorter`), so every loop over a text ends by the
length of what is left.  What may pass over nothing answers with a `Rest`.

* `Rest.next`, `Taken.next` and `Taken.leaving` go on from what is left;
* `behind` and `within` carry a result into a longer text;
* `Taken.upTo` — what was found begins with a character and ends at a rest;
* `Rest.first?` — what is behind a character that has to be there.
-/
namespace RealmRegistry.Text

theorem length_lt_cons (c : Char) (r : List Char) : r.length < (c :: r).length :=
  Nat.lt_succ_self r.length

theorem length_dropWhile_le (p : Char → Bool) (s : List Char) :
    (s.dropWhile p).length ≤ s.length :=
  (List.dropWhile_suffix p).length_le

/-! ### What is left -/

/-- What is left of `s` after some of it, or nothing, was passed over. -/
abbrev Rest (s : List Char) : Type := { r : List Char // r.length ≤ s.length }

namespace Rest

/-- Nothing was passed over. -/
def all (s : List Char) : Rest s := ⟨s, Nat.le_refl _⟩

/-- What is behind the characters at the front that satisfy `p`. -/
def dropWhile (p : Char → Bool) (s : List Char) : Rest s :=
  ⟨s.dropWhile p, length_dropWhile_le p s⟩

/-- What is behind the first `n` characters. -/
def drop (n : Nat) (s : List Char) : Rest s :=
  ⟨s.drop n, (List.drop_suffix n s).length_le⟩

/-- The same rest of a text with one more character in front. -/
def behind (c : Char) {s : List Char} (r : Rest s) : Rest (c :: s) :=
  ⟨r.1, Nat.le_succ_of_le r.2⟩

/-- The same rest of a text that is at least as long. -/
def within {s t : List Char} (r : Rest t) (h : t.length ≤ s.length) : Rest s :=
  ⟨r.1, Nat.le_trans r.2 h⟩

/-- The rest of a rest. -/
def next {s : List Char} (r : Rest s) (u : Rest r.1) : Rest s := u.within r.2

/-- A rest without its first character. -/
def tail {s r : List Char} {c : Char} (h : (c :: r).length ≤ s.length) : Rest s :=
  ((all r).behind c).within h

end Rest

/-! ### What is found -/

/-- What was read from the front of `s`, and what is left of it. -/
structure Taken (α : Type) (s : List Char) where
  value : α
  rest : List Char
  shorter : rest.length < s.length

namespace Taken

/-- Changes the value and leaves the rest. -/
def map {α β : Type} {s : List Char} (f : α → β) (t : Taken α s) : Taken β s :=
  ⟨f t.value, t.rest, t.shorter⟩

/-- The rest, without the value. -/
def left {α : Type} {s : List Char} (t : Taken α s) : Rest s :=
  ⟨t.rest, Nat.le_of_lt t.shorter⟩

/-- Finds `a` from a character up to a rest of what is behind it. -/
def upTo {α : Type} (a : α) (c : Char) {s : List Char} (r : Rest s) : Taken α (c :: s) :=
  ⟨a, r.1, Nat.lt_succ_of_le r.2⟩

/-- Finds `a` in the first character. -/
def first {α : Type} (a : α) (c : Char) (s : List Char) : Taken α (c :: s) :=
  upTo a c (.all s)

/-- The same result in a text that is at least as long. -/
def within {α : Type} {s t : List Char} (r : Taken α t) (h : t.length ≤ s.length) : Taken α s :=
  ⟨r.value, r.rest, Nat.lt_of_lt_of_le r.shorter h⟩

/-- The same result in a text with one more character in front. -/
def behind {α : Type} (c : Char) {s : List Char} (t : Taken α s) : Taken α (c :: s) :=
  t.within (Nat.le_succ s.length)

/-- What is found in the rest of `t`. -/
def next {α β : Type} {s : List Char} (t : Taken α s) (u : Taken β t.rest) : Taken β s :=
  u.within t.left.2

/-- Leaves less. -/
def leaving {α : Type} {s : List Char} (t : Taken α s) (r : Rest t.rest) : Taken α s :=
  ⟨t.value, r.1, Nat.lt_of_le_of_lt r.2 t.shorter⟩

end Taken

/-- What is found in a rest. -/
def Rest.read {α : Type} {s : List Char} (r : Rest s) (t : Taken α r.1) : Taken α s :=
  t.within r.2

/-- What is behind the first character of a rest, if that character is `c`. -/
def Rest.first? {s : List Char} (r : Rest s) (c : Char) : Option (Taken Unit s) :=
  match r with
  | ⟨[], _⟩ => none
  | ⟨d :: u, h⟩ => if d = c then some ⟨(), u, h⟩ else none

/-! ### Readers -/

/-- A reader of `α` that fails with `ε`. -/
abbrev Reader (ε α : Type) : Type :=
  (s : List Char) → Except ε (Taken α s)

namespace Reader

/-- Changes what a reader finds. -/
def map {ε α β : Type} (f : α → β) (r : Reader ε α) : Reader ε β :=
  fun s => (r s).map (Taken.map f)

end Reader

end RealmRegistry.Text
