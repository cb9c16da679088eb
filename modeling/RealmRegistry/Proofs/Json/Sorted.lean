/-
Sorting the members of a value once more changes nothing, and a sorted value can be written and
read back whenever the value can.

* `sorted_sorted` — sorting is idempotent;
* `parse_write_sorted` — a sorted value is read back as it is.
-/
import RealmRegistry.Proofs.Json.RoundTrip

namespace RealmRegistry

theorem Dict.mem_of_mem_foldl {α : Type} {d : Dict α} {l : List (String × α)} {e : String × α}
    (h : e ∈ (l.foldl (fun d e => d.insert e.1 e.2) d).entries) : e ∈ d.entries ∨ e ∈ l := by
  induction l generalizing d with
  | nil => exact .inl h
  | cons a r ih =>
    rcases ih h with h | h
    · rcases mem_insertEntry h with rfl | h
      · exact .inr List.mem_cons_self
      · exact .inl h
    · exact .inr (List.mem_cons_of_mem a h)

theorem Dict.mem_of_mem_ofList {α : Type} {l : List (String × α)} {e : String × α}
    (h : e ∈ (ofList l).entries) : e ∈ l := by
  rcases mem_of_mem_foldl h with h | h
  · exact absurd h List.not_mem_nil
  · exact h

namespace Json

@[simp] theorem sortedItems_eq_map (vs : List Json) : sortedItems vs = vs.map sorted := by
  induction vs with
  | nil => rfl
  | cons v r ih => rw [sortedItems, ih, List.map_cons]

@[simp] theorem sortedMembers_eq_map (ms : List (String × Json)) :
    sortedMembers ms = ms.map fun m => (m.1, m.2.sorted) := by
  induction ms with
  | nil => rfl
  | cons m r ih => rw [sortedMembers, ih, List.map_cons]

/-- The members of a sorted object are sorted members of the object. -/
theorem mem_sorted_object {ms : List (String × Json)} {e : String × Json}
    (h : e ∈ (Dict.ofList (sortedMembers ms)).entries) : ∃ m ∈ ms, e = (m.1, m.2.sorted) := by
  have hmem := Dict.mem_of_mem_ofList h
  rw [sortedMembers_eq_map] at hmem
  obtain ⟨m, hm, rfl⟩ := List.mem_map.1 hmem
  exact ⟨m, hm, rfl⟩

mutual

theorem sorted_sorted : ∀ v : Json, v.sorted.sorted = v.sorted
  | null => rfl
  | flag _ => rfl
  | integer _ => rfl
  | float _ => rfl
  | text _ => rfl
  | list vs => by simpa using sorted_item vs
  | object ms => by
    -- the members are in order, and each of them is sorted already
    have hsame : sortedMembers (Dict.ofList (sortedMembers ms)).entries =
        (Dict.ofList (sortedMembers ms)).entries := by
      rw [sortedMembers_eq_map]
      refine (List.map_congr_left fun e he => ?_).trans (List.map_id _)
      obtain ⟨m, hm, rfl⟩ := mem_sorted_object he
      rw [sorted_member ms m hm]
      rfl
    rw [sorted, sorted, hsame, Dict.ofList_entries]

theorem sorted_item : ∀ vs : List Json, ∀ v ∈ vs, v.sorted.sorted = v.sorted
  | [], _, h => absurd h List.not_mem_nil
  | v :: r, w, h => by
    rcases List.mem_cons.1 h with h | h
    · rw [h]
      exact sorted_sorted v
    · exact sorted_item r w h

theorem sorted_member : ∀ ms : List (String × Json), ∀ m ∈ ms, m.2.sorted.sorted = m.2.sorted
  | [], _, h => absurd h List.not_mem_nil
  | (k, v) :: r, m, h => by
    rcases List.mem_cons.1 h with rfl | h
    · exact sorted_sorted v
    · exact sorted_member r m h

end

/-! ### Writing and reading -/

mutual

theorem plain_sorted : ∀ {v : Json}, v.Plain → v.sorted.Plain
  | null, h => h
  | flag _, h => h
  | integer _, h => h
  | float _, h => h
  | text _, h => h
  | list vs, h => by simpa using plain_item vs h
  | object ms, h => by
    refine plainMembers_iff.2 fun e he => ?_
    obtain ⟨m, hm, rfl⟩ := mem_sorted_object he
    exact plain_member ms h m hm

theorem plain_item : ∀ vs : List Json, PlainItems vs → ∀ v ∈ vs, v.sorted.Plain
  | [], _, _, hv => absurd hv List.not_mem_nil
  | v :: r, h, w, hw => by
    rcases List.mem_cons.1 hw with hw | hw
    · rw [hw]
      exact plain_sorted h.1
    · exact plain_item r h.2 w hw

theorem plain_member : ∀ ms : List (String × Json), PlainMembers ms → ∀ m ∈ ms, m.2.sorted.Plain
  | [], _, _, hm => absurd hm List.not_mem_nil
  | (k, v) :: r, h, m, hm => by
    rcases List.mem_cons.1 hm with rfl | hm
    · exact plain_sorted (v := v) h.1
    · exact plain_member r h.2 m hm

end

mutual

theorem depth_sorted_le : ∀ v : Json, v.sorted.depth ≤ v.depth
  | null => Nat.le_refl _
  | flag _ => Nat.le_refl _
  | integer _ => Nat.le_refl _
  | float _ => Nat.le_refl _
  | text _ => Nat.le_refl _
  | list vs => by simpa using depth_item_le vs
  | object ms => by
    refine Nat.succ_le_succ (membersDepth_le_iff.2 fun e he => ?_)
    obtain ⟨m, hm, rfl⟩ := mem_sorted_object he
    exact depth_member_le ms m hm

theorem depth_item_le : ∀ vs : List Json, ∀ v ∈ vs, v.sorted.depth ≤ itemsDepth vs
  | [], _, hv => absurd hv List.not_mem_nil
  | v :: r, w, hw => by
    rw [itemsDepth]
    rcases List.mem_cons.1 hw with hw | hw
    · rw [hw]
      exact Nat.le_trans (depth_sorted_le v) (Nat.le_max_left _ _)
    · exact Nat.le_trans (depth_item_le r w hw) (Nat.le_max_right _ _)

theorem depth_member_le : ∀ ms : List (String × Json), ∀ m ∈ ms,
    m.2.sorted.depth ≤ membersDepth ms
  | [], _, hm => absurd hm List.not_mem_nil
  | (k, v) :: r, m, hm => by
    rw [membersDepth]
    rcases List.mem_cons.1 hm with rfl | hm
    · exact Nat.le_trans (depth_sorted_le v) (Nat.le_max_left _ _)
    · exact Nat.le_trans (depth_member_le r m hm) (Nat.le_max_right _ _)

end

/-- A sorted value is read back as it is, whatever blanks are behind it. -/
theorem parse_write_sorted (indent : Option Nat) {v : Json} (hv : v.Plain)
    (hd : v.depth ≤ maxDepth) {b : List Char} (hb : Blanks b) :
    parse (write indent v.sorted ++ b) = .ok v.sorted := by
  have hparse := parse_write indent (plain_sorted hv) (Nat.le_trans (depth_sorted_le v) hd) hb
  rwa [sorted_sorted] at hparse

end Json

end RealmRegistry
