/-
White space, as the Unicode property White_Space has it, and texts without it at their ends.

* `trimChars_eq_nil_iff` — nothing is left of a text exactly when it holds blanks only.
-/
namespace RealmRegistry.Text

/-- The property White_Space. -/
def isBlank (c : Char) : Bool :=
  let n := c.toNat
  (0x9 ≤ n && n ≤ 0xd) || n == 0x20 || n == 0x85 || n == 0xa0 || n == 0x1680 ||
    (0x2000 ≤ n && n ≤ 0x200a) || n == 0x2028 || n == 0x2029 || n == 0x202f || n == 0x205f ||
    n == 0x3000

/-- A text without the blanks at its ends. -/
def trimChars (s : List Char) : List Char :=
  ((s.dropWhile isBlank).reverse.dropWhile isBlank).reverse

/-- A string without the blanks at its ends. -/
def trim (s : String) : String :=
  String.ofList (trimChars s.toList)

/-- Whether a string has nothing but blanks. -/
def isVacant (s : String) : Bool :=
  (trimChars s.toList).isEmpty

@[simp] theorem trimChars_eq_nil_iff (s : List Char) :
    trimChars s = [] ↔ ∀ c ∈ s, isBlank c = true := by
  have nil_iff : ∀ t : List Char, t.dropWhile isBlank = [] ↔ ∀ c ∈ t, isBlank c = true := by
    intro t
    induction t with
    | nil => simp
    | cons c r ih => by_cases h : isBlank c <;> simp [h, ih]
  rw [trimChars, List.reverse_eq_nil_iff, nil_iff]
  constructor
  · intro h
    rw [← nil_iff]
    cases hd : s.dropWhile isBlank with
    | nil => rfl
    | cons c r =>
      have hc : isBlank c = true := h c (by simp [hd])
      have := List.head_dropWhile_not isBlank (by simp [hd] : s.dropWhile isBlank ≠ [])
      simp [hd, hc] at this
  · intro h c hc
    exact h c ((List.dropWhile_suffix isBlank).subset (by simpa using hc))

end RealmRegistry.Text
