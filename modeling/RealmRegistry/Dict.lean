/-
Dictionaries with text keys, kept in increasing order of the keys.

The order is that of the code points, which for UTF-8 is the order of the bytes.  Each key occurs
once, so two dictionaries with the same entries are equal:

* `Dict.get?_insert` — a later entry of a key replaces the earlier one and touches no other;
* `Dict.ofList_entries` — building a dictionary from its own entries gives it back.
-/
namespace RealmRegistry

/-- Entries in increasing order of their keys. -/
structure Dict (α : Type) where
  entries : List (String × α)
  sorted : entries.Pairwise fun a b => a.1 < b.1

namespace Dict

variable {α β : Type}

@[ext] theorem ext {d e : Dict α} (h : d.entries = e.entries) : d = e := by
  cases d; cases e; cases h; rfl

instance [DecidableEq α] : DecidableEq (Dict α) := fun d e =>
  decidable_of_iff (d.entries = e.entries) ⟨Dict.ext, fun h => h ▸ rfl⟩

/-- Puts an entry at its place, over one of the same key. -/
@[simp] def insertEntry (k : String) (v : α) : List (String × α) → List (String × α)
  | [] => [(k, v)]
  | (k', v') :: r =>
    if k < k' then (k, v) :: (k', v') :: r
    else if k = k' then (k, v) :: r
    else (k', v') :: insertEntry k v r

theorem mem_insertEntry {k : String} {v : α} {e : String × α} {l : List (String × α)} :
    e ∈ insertEntry k v l → e = (k, v) ∨ e ∈ l := by
  induction l with
  | nil => simp
  | cons hd r ih =>
    obtain ⟨k', v'⟩ := hd
    simp only [insertEntry]
    split
    · simp
    · split
      · simp +contextual [or_imp]
      · simp only [List.mem_cons]
        rintro (h | h)
        · exact .inr (.inl h)
        · exact (ih h).imp id .inr

theorem lt_of_not_lt {k k' : String} (h : ¬ k < k') (hne : k ≠ k') : k' < k := by
  have : k' ≤ k := h
  exact Std.lt_of_le_of_ne this (Ne.symm hne)

theorem sorted_insertEntry (k : String) (v : α) {l : List (String × α)}
    (h : l.Pairwise fun a b => a.1 < b.1) :
    (insertEntry k v l).Pairwise fun a b => a.1 < b.1 := by
  induction l with
  | nil => simp
  | cons hd r ih =>
    obtain ⟨k', v'⟩ := hd
    rw [List.pairwise_cons] at h
    simp only [insertEntry]
    split
    next hlt =>
      refine List.pairwise_cons.2 ⟨fun e he => ?_, List.pairwise_cons.2 h⟩
      rcases List.mem_cons.1 he with rfl | he
      · exact hlt
      · exact String.lt_trans hlt (h.1 e he)
    next hlt =>
      split
      next heq => exact List.pairwise_cons.2 ⟨fun e he => heq ▸ h.1 e he, h.2⟩
      next hne =>
        refine List.pairwise_cons.2 ⟨fun e he => ?_, ih h.2⟩
        rcases mem_insertEntry he with rfl | he
        · exact lt_of_not_lt hlt hne
        · exact h.1 e he

/-- The dictionary without entries. -/
def empty : Dict α := ⟨[], .nil⟩

/-- Sets the value of a key. -/
def insert (d : Dict α) (k : String) (v : α) : Dict α :=
  ⟨insertEntry k v d.entries, sorted_insertEntry k v d.sorted⟩

/-- The dictionary of a list of entries, where the last one of a key counts. -/
def ofList (l : List (String × α)) : Dict α :=
  l.foldl (fun d e => d.insert e.1 e.2) empty

/-- The value of a key. -/
def get? (d : Dict α) (k : String) : Option α :=
  d.entries.lookup k

theorem lookup_insertEntry (k k' : String) (v : α) (l : List (String × α)) :
    (insertEntry k v l).lookup k' = if k' = k then some v else l.lookup k' := by
  have lookup_ne {a b : String} {w : α} {m : List (String × α)} (h : ¬ a = b) :
      ((b, w) :: m).lookup a = m.lookup a := by
    rw [List.lookup_cons, beq_false_of_ne h]
  induction l with
  | nil =>
    by_cases h : k' = k
    · simp [h]
    · simp [lookup_ne h, h]
  | cons hd r ih =>
    obtain ⟨k₁, v₁⟩ := hd
    simp only [insertEntry]
    split
    · by_cases h : k' = k
      · simp [h]
      · simp [lookup_ne h, h]
    · split
      next heq =>
        subst heq
        by_cases h : k' = k
        · simp [h]
        · simp [lookup_ne h, h]
      next hne =>
        by_cases h₁ : k' = k₁
        · subst h₁
          simp [Ne.symm hne]
        · rw [lookup_ne h₁, lookup_ne h₁, ih]

@[simp] theorem get?_insert (d : Dict α) (k k' : String) (v : α) :
    (d.insert k v).get? k' = if k' = k then some v else d.get? k' :=
  lookup_insertEntry k k' v d.entries

theorem insertEntry_append {k : String} {v : α} {l : List (String × α)}
    (h : ∀ e ∈ l, e.1 < k) : insertEntry k v l = l ++ [(k, v)] := by
  induction l with
  | nil => rfl
  | cons hd r ih =>
    obtain ⟨k', v'⟩ := hd
    have hlt : k' < k := h (k', v') (by simp)
    have hne : k ≠ k' := fun e => String.lt_irrefl k' (e ▸ hlt)
    rw [insertEntry, if_neg (String.lt_asymm hlt), if_neg hne,
      ih fun e he => h e (List.mem_cons_of_mem _ he)]
    rfl

theorem entries_foldl_insert {d : Dict α} {l : List (String × α)}
    (h : (d.entries ++ l).Pairwise fun a b => a.1 < b.1) :
    (l.foldl (fun d e => d.insert e.1 e.2) d).entries = d.entries ++ l := by
  induction l generalizing d with
  | nil => simp
  | cons e r ih =>
    have hd : (d.insert e.1 e.2).entries = d.entries ++ [e] :=
      insertEntry_append fun a ha =>
        (List.pairwise_append.1 h).2.2 a ha e (by simp)
    rw [List.foldl_cons, ih (by simpa [hd] using h), hd]
    simp

theorem entries_ofList {l : List (String × α)} (h : l.Pairwise fun a b => a.1 < b.1) :
    (ofList l).entries = l := by
  have := entries_foldl_insert (d := (empty : Dict α)) (l := l) (by simpa [empty] using h)
  simpa [ofList, empty] using this

@[simp] theorem ofList_entries (d : Dict α) : ofList d.entries = d :=
  Dict.ext (entries_ofList d.sorted)

end Dict

end RealmRegistry
