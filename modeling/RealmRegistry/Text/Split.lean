/-
Texts in parts.

* `splitAt` — the parts of a text between separators;
* `cut` — what stands before the first separator, and behind it if there is one;
* `linesOf` — the lines of a text.
-/
namespace RealmRegistry.Text

/-- The parts of a text between the separators. -/
def splitAt (separator : Char) : List Char → List (List Char)
  | [] => [[]]
  | c :: r =>
    if c = separator then [] :: splitAt separator r
    else
      match splitAt separator r with
      | [] => [[c]]
      | part :: more => (c :: part) :: more

/-- What stands before the first separator, and what stands behind it. -/
def cut (separator : Char) (s : List Char) : List Char × Option (List Char) :=
  match s.dropWhile (· != separator) with
  | [] => (s, none)
  | _ :: r => (s.takeWhile (· != separator), some r)

/-- A line without a carriage return at its end. -/
def withoutReturn (line : List Char) : List Char :=
  if line.getLast? = some '\r' then line.dropLast else line

/-- The lines of a text; the end of the last one need not be marked. -/
def linesOf (text : String) : List String :=
  let parts := splitAt '\n' text.toList
  let parts := if parts.getLast? = some [] then parts.dropLast else parts
  parts.map fun p => .ofList (withoutReturn p)

theorem splitAt_ne_nil (separator : Char) (s : List Char) : splitAt separator s ≠ [] := by
  cases s with
  | nil => simp [splitAt]
  | cons c r =>
    rw [splitAt]
    split
    · simp
    · split <;> simp

/-- Parts are nothing but the text: together with the separators they make it. -/
@[simp] theorem intercalate_splitAt (separator : Char) (s : List Char) :
    [separator].intercalate (splitAt separator s) = s := by
  induction s with
  | nil => simp [splitAt]
  | cons c r ih =>
    rw [splitAt]
    split
    · next h =>
      cases hr : splitAt separator r with
      | nil => exact absurd hr (splitAt_ne_nil separator r)
      | cons part more => rw [hr] at ih; simp [h, ← ih]
    · split
      · next hr => exact absurd hr (splitAt_ne_nil separator r)
      · next part more hr =>
        rw [hr] at ih
        cases more <;> simp_all [List.intercalate]

/-- What stands before and behind the first separator makes the text with it between them. -/
theorem append_cut {separator : Char} {s before behind : List Char}
    (h : cut separator s = (before, some behind)) : before ++ separator :: behind = s := by
  unfold cut at h
  split at h
  · cases h
  · next c r hr =>
    cases h
    have hc : c = separator := by
      have := List.head?_dropWhile_not (· != separator) s
      simpa [hr] using this
    rw [← hc, ← hr, hc, List.takeWhile_append_dropWhile]

end RealmRegistry.Text
