/-
Lines below a key do to the table under it what they do to a table.

Going down to a table and changing it twice is going down once (`alter_bind`, `into_bind`), so what
a run of lines does to a document can be told table by table.

* `addTables_append` — lines from a header on are read on their own;
* `addTables_under` — lines below a key against the same lines without the key.
-/
import RealmRegistry.Toml.Tree

namespace RealmRegistry.Toml

/-! ### Changing what is under a key -/

theorem membersToToml_eq_map (ms : Members) :
    membersToToml ms = ms.map fun m => (m.1, m.2.toToml) := by
  induction ms with
  | nil => rfl
  | cons m r ih => rw [membersToToml, ih, List.map_cons]

theorem alter_absent {k : String} {ms : Members} (h : k ∉ ms.map Prod.fst)
    (f : Option Node → Option Node) :
    alter k f ms = (f none).map fun n => ms ++ [(k, n)] := by
  induction ms with
  | nil => rfl
  | cons m r ih =>
    rw [List.map_cons, List.mem_cons, not_or] at h
    rw [alter, if_neg h.1, ih h.2, Option.map_map]
    rfl

theorem alter_last {k : String} {ms : Members} (h : k ∉ ms.map Prod.fst) (n : Node)
    (f : Option Node → Option Node) :
    alter k f (ms ++ [(k, n)]) = (f (some n)).map fun n' => ms ++ [(k, n')] := by
  induction ms with
  | nil => exact if_pos rfl
  | cons m r ih =>
    rw [List.map_cons, List.mem_cons, not_or] at h
    rw [List.cons_append, alter, if_neg h.1, ih h.2, Option.map_map]
    rfl

/-- Two changes under one key are one change. -/
theorem alter_bind (k : String) (f g : Option Node → Option Node) (ms : Members) :
    (alter k f ms).bind (alter k g) = alter k (fun n => (f n).bind fun n' => g (some n')) ms := by
  induction ms with
  | nil =>
    rw [alter, alter]
    cases f none with
    | none => rfl
    | some n => exact if_pos rfl
  | cons m r ih =>
    obtain ⟨k', n⟩ := m
    rw [alter, alter]
    by_cases hk : k = k'
    · rw [if_pos hk, if_pos hk]
      cases f (some n) with
      | none => rfl
      | some n' => exact if_pos hk
    · rw [if_neg hk, if_neg hk, ← ih]
      cases alter k f r with
      | none => rfl
      | some r' => exact if_neg hk

@[simp] theorem alterLast_concat (f : Members → Option Members) (l : List Members) (ms : Members) :
    alterLast f (l ++ [ms]) = (f ms).map fun ms' => l ++ [ms'] := by
  rw [alterLast, List.getLast?_concat, List.dropLast_concat]

theorem alterLast_bind (f g : Members → Option Members) (l : List Members) :
    (alterLast f l).bind (alterLast g) = alterLast (fun ms => (f ms).bind g) l := by
  rcases List.eq_nil_or_concat l with rfl | ⟨l, ms, rfl⟩
  · rfl
  · rw [List.concat_eq_append, alterLast_concat, alterLast_concat]
    cases f ms with
    | none => rfl
    | some ms' => exact alterLast_concat g l ms'

/-- Changes the table that a node stands for; where there is no node, a table comes about. -/
def into (f : Members → Option Members) : Option Node → Option Node
  | none => (f []).map (.table .implied)
  | some (.table origin inner) => (f inner).map (.table origin)
  | some (.tables l) => (alterLast f l).map .tables
  | some (.value _) => none

@[simp] theorem descend_cons (k : String) (parents : List String) (f : Members → Option Members)
    (ms : Members) : descend (k :: parents) f ms = alter k (into (descend parents f)) ms := by
  rw [descend]
  rfl

theorem into_bind (f g : Members → Option Members) (n : Option Node) :
    (into f n).bind (fun n' => into g (some n')) = into (fun ms => (f ms).bind g) n := by
  rcases n with _ | ⟨v⟩ | ⟨o, inner⟩ | ⟨l⟩
  · simp only [into]
    cases f [] <;> rfl
  · rfl
  · simp only [into]
    cases f inner <;> rfl
  · simp only [into, ← alterLast_bind]
    cases alterLast f l <;> rfl

/-! ### Lines below a key -/

/-- A line that begins a table. -/
def Line.isHeader : Line → Bool
  | .entry _ _ => false
  | _ => true

/-- The line of the same table below a key. -/
def Line.under (k : String) : Line → Line
  | .entry p v => .entry p v
  | .table p => .table (p.below k)
  | .element p => .element (p.below k)

/-- Lines that begin with a header, if there are any. -/
def Headed (ls : List Line) : Prop := ∀ l ∈ ls.head?, l.isHeader = true

theorem headed_nil : Headed [] := by
  intro l h
  simp at h

theorem headed_cons {l : Line} (h : l.isHeader = true) (r : List Line) : Headed (l :: r) := by
  intro l' h'
  rw [← Option.mem_some_iff.1 h']
  exact h

theorem Headed.append {ls ls' : List Line} (h : Headed ls) (h' : Headed ls') :
    Headed (ls ++ ls') := by
  cases ls with
  | nil => exact h'
  | cons l r => exact headed_cons (h l rfl) _

theorem headed_leadingEntries (ls : List Line) : Headed (leadingEntries ls).2 := by
  induction ls with
  | nil => exact headed_nil
  | cons l r ih =>
    cases l with
    | entry p v => exact ih
    | table p => exact headed_cons rfl r
    | element p => exact headed_cons rfl r

theorem leadingEntries_headed {ls : List Line} (h : Headed ls) : leadingEntries ls = ([], ls) := by
  cases ls with
  | nil => rfl
  | cons l r =>
    cases l with
    | entry p v => exact absurd (h _ rfl) (by simp [Line.isHeader])
    | table p => rfl
    | element p => rfl

theorem leadingEntries_append (ls : List Line) {ls' : List Line} (h : Headed ls') :
    leadingEntries (ls ++ ls') = ((leadingEntries ls).1, (leadingEntries ls).2 ++ ls') := by
  induction ls with
  | nil => exact leadingEntries_headed h
  | cons l r ih =>
    cases l with
    | entry p v => rw [List.cons_append, leadingEntries, ih]; rfl
    | table p => rfl
    | element p => rfl

theorem leadingEntries_under (k : String) (ls : List Line) :
    leadingEntries (ls.map (Line.under k)) =
      ((leadingEntries ls).1, (leadingEntries ls).2.map (Line.under k)) := by
  induction ls with
  | nil => rfl
  | cons l r ih =>
    cases l with
    | entry p v =>
      rw [List.map_cons, show Line.under k (.entry p v) = .entry p v from rfl, leadingEntries, ih]
      rfl
    | table p => rfl
    | element p => rfl

/-- What a header with its entries does to the outermost table. -/
def Line.add (entries : List (Path × Toml)) : Line → Members → Option Members
  | .entry _ _, _ => none
  | .table p, ms => descend p.parents (addTable p.key entries) ms
  | .element p, ms => descend p.parents (addElement p.key entries) ms

@[simp] theorem addTables_nil (ms : Members) : addTables ms [] = some ms := by
  rw [addTables]

theorem addTables_cons (ms : Members) (l : Line) (r : List Line) :
    addTables ms (l :: r) =
      (l.add (leadingEntries r).1 ms).bind fun ms' => addTables ms' (leadingEntries r).2 := by
  cases l with
  | entry p v => rw [addTables]; rfl
  | table p =>
    rw [addTables, Line.add]
    cases descend p.parents (addTable p.key (leadingEntries r).1) ms <;> rfl
  | element p =>
    rw [addTables, Line.add]
    cases descend p.parents (addElement p.key (leadingEntries r).1) ms <;> rfl

theorem add_under (k : String) {l : Line} (h : l.isHeader = true) (entries : List (Path × Toml))
    (ms : Members) : (l.under k).add entries ms = alter k (into (l.add entries)) ms := by
  cases l with
  | entry p v => cases h
  | table p => exact descend_cons k p.parents _ ms
  | element p => exact descend_cons k p.parents _ ms

theorem addTables_append {ls ls' : List Line} (h : Headed ls') (ms : Members) :
    addTables ms (ls ++ ls') = (addTables ms ls).bind fun ms' => addTables ms' ls' := by
  -- the lines from the next header on are fewer
  induction hn : ls.length using Nat.strongRecOn generalizing ls ms with
  | ind n ih =>
    cases ls with
    | nil => rw [List.nil_append, addTables_nil, Option.bind_some]
    | cons l r =>
      have hlt : (leadingEntries r).2.length < n := by
        have := length_leadingEntries_le r
        rw [List.length_cons] at hn
        omega
      rw [List.cons_append, addTables_cons, addTables_cons, leadingEntries_append r h,
        Option.bind_assoc]
      congr 1
      funext ms'
      exact ih _ hlt ms' rfl

/-- Lines below a key do to the table under it what they do to a table. -/
theorem addTables_under (k : String) {l : Line} {r : List Line} (h : l.isHeader = true)
    (ms : Members) : addTables ms ((l :: r).map (Line.under k)) =
      alter k (into fun inner => addTables inner (l :: r)) ms := by
  induction hn : r.length using Nat.strongRecOn generalizing l r ms with
  | ind n ih =>
    have hstep : (fun inner => addTables inner (l :: r)) = fun inner =>
        (l.add (leadingEntries r).1 inner).bind fun ms' => addTables ms' (leadingEntries r).2 := by
      funext inner
      exact addTables_cons inner l r
    have hlt := length_leadingEntries_le r
    have hhead := headed_leadingEntries r
    rw [List.map_cons, addTables_cons, leadingEntries_under, add_under k h, hstep]
    generalize leadingEntries r = e at hlt hhead ⊢
    obtain ⟨entries, rest⟩ := e
    cases rest with
    | nil => simp
    | cons l' r' =>
      have hnext : (fun ms' => addTables ms' ((l' :: r').map (Line.under k))) =
          alter k (into fun inner => addTables inner (l' :: r')) := by
        funext ms'
        exact ih r'.length (by simp only [List.length_cons] at hlt; omega) (hhead l' rfl) ms' rfl
      simp only [hnext, alter_bind, into_bind]

end RealmRegistry.Toml
