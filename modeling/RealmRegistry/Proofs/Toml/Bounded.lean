/-
The whole numbers of a document have 64 bits with a sign.

A word that stands for a larger number is refused, and nothing that is done to a value later changes
a number in it: each reader gives `Bounded` values, and each change to a table that is made of such
values leaves them so (`Keeps`).

* `gives_value` — a value that is read;
* `keeps_addTables` — lines add what is in them;
* `bounded_parse` — all of a document.
-/
import RealmRegistry.Proofs.Toml.Below
import RealmRegistry.Toml.Parser

namespace RealmRegistry.Toml

open RealmRegistry.Text

/-! ### Bounded values -/

mutual

/-- A value whose whole numbers have 64 bits with a sign. -/
def Bounded : Toml → Prop
  | .integer i => -0x8000000000000000 ≤ i ∧ i < 0x8000000000000000
  | .list items => BoundedItems items
  | .table ms => BoundedMembers ms
  | .tables elements => BoundedElements elements
  | _ => True

/-- The same for the elements of a list. -/
def BoundedItems : List Toml → Prop
  | [] => True
  | v :: r => v.Bounded ∧ BoundedItems r

/-- The same for the members of a table. -/
def BoundedMembers : List (String × Toml) → Prop
  | [] => True
  | (_, v) :: r => v.Bounded ∧ BoundedMembers r

/-- The same for the tables of an array. -/
def BoundedElements : List (List (String × Toml)) → Prop
  | [] => True
  | ms :: r => BoundedMembers ms ∧ BoundedElements r

end

@[simp] theorem boundedItems_iff {items : List Toml} :
    BoundedItems items ↔ ∀ v ∈ items, v.Bounded := by
  induction items with
  | nil => simp [BoundedItems]
  | cons v r ih => rw [BoundedItems, ih, List.forall_mem_cons]

@[simp] theorem boundedMembers_iff {ms : List (String × Toml)} :
    BoundedMembers ms ↔ ∀ m ∈ ms, m.2.Bounded := by
  induction ms with
  | nil => simp [BoundedMembers]
  | cons m r ih => rw [BoundedMembers, ih, List.forall_mem_cons]

@[simp] theorem boundedElements_iff {elements : List (List (String × Toml))} :
    BoundedElements elements ↔ ∀ ms ∈ elements, BoundedMembers ms := by
  induction elements with
  | nil => simp [BoundedElements]
  | cons ms r ih => rw [BoundedElements, ih, List.forall_mem_cons]

/-! ### Tables -/

/-- What has been said of keys has bounded values. -/
def Held (ms : Members) : Prop := ∀ m ∈ ms, m.2.toToml.Bounded

@[simp] theorem boundedMembers_toToml {ms : Members} :
    BoundedMembers (membersToToml ms) ↔ Held ms := by
  rw [boundedMembers_iff, membersToToml_eq_map]
  exact List.forall_mem_map

@[simp] theorem boundedElements_toToml {l : List Members} :
    BoundedElements (elementsToToml l) ↔ ∀ ms ∈ l, Held ms := by
  induction l with
  | nil => simp [elementsToToml]
  | cons ms r ih =>
    rw [elementsToToml, BoundedElements, ih, boundedMembers_toToml, List.forall_mem_cons]

@[simp] theorem bounded_table {o : Origin} {ms : Members} :
    (Node.table o ms).toToml.Bounded ↔ Held ms := by
  rw [Node.toToml, Bounded, boundedMembers_toToml]

@[simp] theorem bounded_tables {l : List Members} :
    (Node.tables l).toToml.Bounded ↔ ∀ ms ∈ l, Held ms := by
  rw [Node.toToml, Bounded, boundedElements_toToml]

theorem held_nil : Held [] := by
  intro m hm
  exact absurd hm List.not_mem_nil

theorem Held.concat {ms : Members} (h : Held ms) {k : String} {n : Node}
    (hn : n.toToml.Bounded) : Held (ms ++ [(k, n)]) := by
  intro m hm
  rcases List.mem_append.1 hm with hm | hm
  · exact h m hm
  · rw [List.mem_singleton.1 hm]
    exact hn

/-- A change of a table that brings nothing unbounded. -/
def Keeps (f : Members → Option Members) : Prop :=
  ∀ ⦃ms ms' : Members⦄, Held ms → f ms = some ms' → Held ms'

/-- The same for what is said of a key. -/
def KeepsNode (f : Option Node → Option Node) : Prop :=
  ∀ ⦃n : Option Node⦄ ⦃n' : Node⦄, (∀ m ∈ n, m.toToml.Bounded) → f n = some n' → n'.toToml.Bounded

theorem keeps_alter {k : String} {f : Option Node → Option Node} (hf : KeepsNode f) :
    Keeps (alter k f) := by
  intro ms ms' h halter
  induction ms generalizing ms' with
  | nil =>
    obtain ⟨n, hn, rfl⟩ := Option.map_eq_some_iff.1 halter
    exact held_nil.concat (hf (by simp) hn)
  | cons m r ih =>
    obtain ⟨k', n⟩ := m
    have hn : n.toToml.Bounded := h (k', n) List.mem_cons_self
    have hr : Held r := fun m hm => h m (List.mem_cons_of_mem _ hm)
    rw [alter] at halter
    split at halter
    · obtain ⟨n', hn', rfl⟩ := Option.map_eq_some_iff.1 halter
      exact List.forall_mem_cons.2 ⟨hf (fun m hm => Option.some.inj hm ▸ hn) hn', hr⟩
    · obtain ⟨r', hr', rfl⟩ := Option.map_eq_some_iff.1 halter
      exact List.forall_mem_cons.2 ⟨hn, ih hr hr'⟩

theorem keeps_alterLast {f : Members → Option Members} (hf : Keeps f) {l l' : List Members}
    (h : ∀ ms ∈ l, Held ms) (halter : alterLast f l = some l') : ∀ ms ∈ l', Held ms := by
  rcases List.eq_nil_or_concat l with rfl | ⟨l, ms, rfl⟩
  · cases halter
  · rw [List.concat_eq_append] at h halter
    rw [alterLast_concat] at halter
    obtain ⟨ms', hms', rfl⟩ := Option.map_eq_some_iff.1 halter
    intro m hm
    rcases List.mem_append.1 hm with hm | hm
    · exact h m (List.mem_append_left _ hm)
    · rw [List.mem_singleton.1 hm]
      exact hf (h ms (by simp)) hms'

/-- Going down to a table and changing it there. -/
theorem keepsNode_into {f : Members → Option Members} (hf : Keeps f) : KeepsNode (into f) := by
  intro n n' h hinto
  rcases n with _ | ⟨v⟩ | ⟨o, inner⟩ | ⟨l⟩
  · obtain ⟨ms, hms, rfl⟩ := Option.map_eq_some_iff.1 hinto
    exact bounded_table.2 (hf held_nil hms)
  · cases hinto
  · obtain ⟨ms, hms, rfl⟩ := Option.map_eq_some_iff.1 hinto
    exact bounded_table.2 (hf (bounded_table.1 (h _ rfl)) hms)
  · obtain ⟨l', hl', rfl⟩ := Option.map_eq_some_iff.1 hinto
    exact bounded_tables.2 (keeps_alterLast hf (bounded_tables.1 (h _ rfl)) hl')

theorem keeps_descend {f : Members → Option Members} (hf : Keeps f) :
    ∀ parents : List String, Keeps (descend parents f)
  | [] => hf
  | p :: parents => by
    intro ms ms' h hdescend
    rw [descend_cons] at hdescend
    exact keeps_alter (keepsNode_into (keeps_descend hf parents)) h hdescend

theorem keeps_put {v : Toml} (hv : v.Bounded) (key : String) :
    ∀ parents : List String, Keeps (put parents key v)
  | [] => by
    refine keeps_alter fun n n' h hput => ?_
    cases n with
    | none =>
      cases hput
      exact hv
    | some m => cases hput
  | p :: parents => by
    have hf := keeps_put hv key parents
    refine keeps_alter fun n n' h hput => ?_
    rcases n with _ | ⟨w⟩ | ⟨o, inner⟩ | ⟨l⟩
    · obtain ⟨ms, hms, rfl⟩ := Option.map_eq_some_iff.1 hput
      exact bounded_table.2 (hf held_nil hms)
    · cases hput
    · -- a table can be added to unless it has a header of its own
      have hinner := bounded_table.1 (h _ rfl)
      cases o with
      | header => cases hput
      | dotted =>
        obtain ⟨ms, hms, rfl⟩ := Option.map_eq_some_iff.1 hput
        exact bounded_table.2 (hf hinner hms)
      | implied =>
        obtain ⟨-, hput⟩ := Option.ite_none_left_eq_some.1 hput
        obtain ⟨ms, hms, rfl⟩ := Option.map_eq_some_iff.1 hput
        exact bounded_table.2 (hf hinner hms)
    · obtain ⟨-, hput⟩ := Option.ite_none_left_eq_some.1 hput
      obtain ⟨l', hl', rfl⟩ := Option.map_eq_some_iff.1 hput
      exact bounded_tables.2 (keeps_alterLast hf (bounded_tables.1 (h _ rfl)) hl')

/-- Entries with bounded values. -/
def BoundedEntries (entries : List (Path × Toml)) : Prop := ∀ e ∈ entries, e.2.Bounded

theorem keeps_fill {entries : List (Path × Toml)} (h : BoundedEntries entries) :
    Keeps (fill entries) := by
  induction entries with
  | nil =>
    intro ms ms' hms hfill
    cases hfill
    exact hms
  | cons e r ih =>
    intro ms ms' hms hfill
    obtain ⟨he, hr⟩ := List.forall_mem_cons.1 h
    obtain ⟨next, hput, hfill⟩ := Option.bind_eq_some_iff.1 hfill
    exact ih hr (keeps_put he e.1.key e.1.parents hms hput) hfill

theorem keeps_addTable {key : String} {entries : List (Path × Toml)} (h : BoundedEntries entries) :
    Keeps (addTable key entries) := by
  intro ms ms' hms hadd
  rw [addTable] at hadd
  split at hadd
  · obtain ⟨t, ht, rfl⟩ := Option.map_eq_some_iff.1 hadd
    exact hms.concat (bounded_table.2 (keeps_fill h held_nil ht))
  next inner hlookup =>
    obtain ⟨t, ht, rfl⟩ := Option.map_eq_some_iff.1 hadd
    -- a table that was only implied keeps what is in it when its header comes
    obtain ⟨l₁, l₂, hsplit, -⟩ := List.lookup_eq_some_iff.1 hlookup
    have hmem : (key, .table .implied inner) ∈ ms := by simp [hsplit]
    have hinner : Held inner := bounded_table.1 (hms _ hmem)
    have hwithout : Held (without key ms) := fun m hm => hms m (List.mem_filter.1 hm).1
    exact hwithout.concat (bounded_table.2 (keeps_fill h hinner ht))
  · cases hadd

theorem keeps_addElement {key : String} {entries : List (Path × Toml)}
    (h : BoundedEntries entries) : Keeps (addElement key entries) := by
  refine keeps_alter fun n n' hn hadd => ?_
  rcases n with _ | ⟨w⟩ | ⟨o, inner⟩ | ⟨l⟩
  · obtain ⟨t, ht, rfl⟩ := Option.map_eq_some_iff.1 hadd
    exact bounded_tables.2 (List.forall_mem_singleton.2 (keeps_fill h held_nil ht))
  · cases hadd
  · cases hadd
  · obtain ⟨t, ht, rfl⟩ := Option.map_eq_some_iff.1 hadd
    refine bounded_tables.2 (List.forall_mem_append.2 ⟨bounded_tables.1 (hn _ rfl), ?_⟩)
    exact List.forall_mem_singleton.2 (keeps_fill h held_nil ht)

/-! ### Lines -/

/-- A line with a bounded value, if it has any. -/
def Line.Bounded : Line → Prop
  | .entry _ v => v.Bounded
  | _ => True

theorem bounded_leadingEntries {ls : List Line} (h : ∀ l ∈ ls, l.Bounded) :
    BoundedEntries (leadingEntries ls).1 ∧ ∀ l ∈ (leadingEntries ls).2, l.Bounded := by
  induction ls with
  | nil => exact ⟨fun e he => absurd he List.not_mem_nil, h⟩
  | cons l r ih =>
    obtain ⟨hl, hr⟩ := List.forall_mem_cons.1 h
    cases l with
    | entry p v =>
      obtain ⟨hentries, hmore⟩ := ih hr
      exact ⟨List.forall_mem_cons.2 ⟨hl, hentries⟩, hmore⟩
    | table p => exact ⟨fun e he => absurd he List.not_mem_nil, h⟩
    | element p => exact ⟨fun e he => absurd he List.not_mem_nil, h⟩

theorem keeps_add {entries : List (Path × Toml)} (h : BoundedEntries entries) (l : Line) :
    Keeps (l.add entries) := by
  cases l with
  | entry p v =>
    intro ms ms' _ hadd
    cases hadd
  | table p => exact keeps_descend (keeps_addTable h) p.parents
  | element p => exact keeps_descend (keeps_addElement h) p.parents

theorem keeps_addTables {ls : List Line} (h : ∀ l ∈ ls, l.Bounded) :
    Keeps (addTables · ls) := by
  -- the lines from the next header on are fewer
  induction hn : ls.length using Nat.strongRecOn generalizing ls with
  | ind n ih =>
    intro ms ms' hms hadd
    cases ls with
    | nil =>
      replace hadd : addTables ms [] = some ms' := hadd
      rw [addTables_nil] at hadd
      exact Option.some.inj hadd ▸ hms
    | cons l r =>
      obtain ⟨-, hr⟩ := List.forall_mem_cons.1 h
      obtain ⟨hentries, hmore⟩ := bounded_leadingEntries hr
      have hlt : (leadingEntries r).2.length < n := by
        have := length_leadingEntries_le r
        rw [List.length_cons] at hn
        omega
      replace hadd : addTables ms (l :: r) = some ms' := hadd
      rw [addTables_cons] at hadd
      obtain ⟨next, hnext, hadd⟩ := Option.bind_eq_some_iff.1 hadd
      exact ih _ hlt hmore rfl (keeps_add hentries l hms hnext) hadd

theorem bounded_ofLines? {ls : List Line} (h : ∀ l ∈ ls, l.Bounded) {ms : List (String × Toml)}
    (hms : ofLines? ls = some ms) : BoundedMembers ms := by
  obtain ⟨hentries, hmore⟩ := bounded_leadingEntries h
  obtain ⟨root, hroot, hms⟩ := Option.bind_eq_some_iff.1 hms
  obtain ⟨nodes, hnodes, hms⟩ := Option.bind_eq_some_iff.1 hms
  rw [← Option.some.inj hms, boundedMembers_toToml]
  exact keeps_addTables hmore (keeps_fill hentries held_nil hroot) hnodes

/-! ### Readers -/

/-- What a reader finds has a property. -/
def Gives {α : Type} (r : Scan α) (P : α → Prop) : Prop :=
  ∀ ⦃s : List Char⦄ ⦃t : Taken α s⦄, r s = some t → P t.value

theorem bounded_ofWord? {s : List Char} {v : Toml} (h : ofWord? s = some v) : v.Bounded := by
  unfold ofWord? at h
  split at h
  · cases h
    trivial
  · split at h
    · cases h
      trivial
    · split at h
      · cases h
        trivial
      · split at h
        next i hi =>
          -- this is the one place where a number comes about
          cases h
          show -0x8000000000000000 ≤ i ∧ i < 0x8000000000000000
          exact of_decide_eq_true (Option.filter_eq_some_iff.1 hi).2
        next =>
          obtain ⟨x, -, rfl⟩ := Option.map_eq_some_iff.1 h
          trivial

theorem gives_word : Gives readWord Bounded := by
  intro s t h
  unfold readWord at h
  split at h
  · cases h
  · split at h
    · dsimp only at h
      split at h
      · cases h
        trivial
      · obtain ⟨v, hv, rfl⟩ := Option.map_eq_some_iff.1 h
        exact bounded_ofWord? hv
    · cases h

theorem gives_with {list table : Scan Toml} (hlist : Gives list Bounded)
    (htable : Gives table Bounded) : Gives (readWith list table) Bounded := by
  intro s t h
  unfold readWith at h
  split at h
  · cases h
  · split at h
    · obtain ⟨u, -, rfl⟩ := Option.map_eq_some_iff.1 h
      trivial
    · split at h
      · obtain ⟨u, hu, rfl⟩ := Option.map_eq_some_iff.1 h
        have hv := hlist hu
        exact hv
      · split at h
        · obtain ⟨u, hu, rfl⟩ := Option.map_eq_some_iff.1 h
          have hv := htable hu
          exact hv
        · exact gives_word h

section Brackets

variable {value : Scan Toml} (hvalue : Gives value Bounded)

include hvalue

theorem gives_elements : Gives (readElements value) fun vs => ∀ v ∈ vs, v.Bounded := by
  intro s t h
  fun_induction readElements value s with
  | case1 s t' hclose =>
    cases h
    exact fun v hv => absurd hv List.not_mem_nil
  | case2 s hclose hv => cases h
  | case3 s hclose v hv t' hclose' =>
    cases h
    have hv := hvalue hv
    exact List.forall_mem_singleton.2 hv
  | case4 s hclose v hv hclose' t' hcomma ih =>
    obtain ⟨u, hu, rfl⟩ := Option.map_eq_some_iff.1 h
    exact List.forall_mem_cons.2 ⟨hvalue hv, ih hu⟩
  | case5 s hclose v hv hclose' hcomma => cases h

theorem gives_entry : Gives (readEntry value) fun e => e.2.Bounded := by
  intro s t h
  unfold readEntry at h
  split at h
  · cases h
  · split at h
    · cases h
    · obtain ⟨v, hv, rfl⟩ := Option.map_eq_some_iff.1 h
      exact hvalue hv

theorem gives_entries : Gives (readEntries value) BoundedEntries := by
  intro s t h
  fun_induction readEntries value s with
  | case1 s he => cases h
  | case2 s e he t' hclose =>
    cases h
    have he := gives_entry hvalue he
    exact List.forall_mem_singleton.2 he
  | case3 s e he hclose t' hcomma ih =>
    obtain ⟨u, hu, rfl⟩ := Option.map_eq_some_iff.1 h
    exact List.forall_mem_cons.2 ⟨gives_entry hvalue he, ih hu⟩
  | case4 s e he hclose hcomma => cases h

theorem gives_table : Gives (readTable value) Bounded := by
  intro s t h
  unfold readTable at h
  split at h
  · cases h
    trivial
  · split at h
    · cases h
    next u hu =>
      obtain ⟨v, hv, rfl⟩ := Option.map_eq_some_iff.1 h
      obtain ⟨ms, hms, rfl⟩ := Option.map_eq_some_iff.1 hv
      exact boundedMembers_toToml.2 (keeps_fill (gives_entries hvalue hu) held_nil hms)

end Brackets

theorem gives_value : ∀ depth : Nat, Gives (readValue depth) Bounded
  | 0 => gives_with (fun s t h => by cases h) fun s t h => by cases h
  | depth + 1 => by
    have hvalue := gives_value depth
    refine gives_with (fun s t h => ?_) (gives_table hvalue)
    obtain ⟨u, hu, rfl⟩ := Option.map_eq_some_iff.1 h
    exact boundedItems_iff.2 (gives_elements hvalue hu)

theorem gives_header {closing : List Char} {line : Path → Line} (h : ∀ p, (line p).Bounded) :
    Gives (readHeader closing line) Line.Bounded := by
  intro s t hread
  unfold readHeader at hread
  split at hread
  · cases hread
  · obtain ⟨-, hread⟩ := Option.ite_none_right_eq_some.1 hread
    cases hread
    exact h _

theorem gives_line : Gives readLine Line.Bounded := by
  intro s t h
  unfold readLine at h
  split at h
  · obtain ⟨u, hu, rfl⟩ := Option.map_eq_some_iff.1 h
    have helement : ∀ p, (Line.element p).Bounded := fun _ => trivial
    have hl := gives_header helement hu
    exact hl
  · obtain ⟨u, hu, rfl⟩ := Option.map_eq_some_iff.1 h
    have htable : ∀ p, (Line.table p).Bounded := fun _ => trivial
    have hl := gives_header htable hu
    exact hl
  · obtain ⟨u, hu, rfl⟩ := Option.map_eq_some_iff.1 h
    exact gives_entry (gives_value maxDepth) hu

theorem bounded_readLines {s : List Char} {ls : List Line} (h : readLines s = some ls) :
    ∀ l ∈ ls, l.Bounded := by
  fun_induction readLines s generalizing ls with
  | case1 =>
    cases h
    exact fun l hl => absurd hl List.not_mem_nil
  | case2 s c r hlt hspace r' hline ih => exact ih h
  | case3 => cases h
  | case4 => cases h
  | case5 s c r hlt hspace hline t ht r' hr' ih =>
    obtain ⟨ls', hls', rfl⟩ := Option.map_eq_some_iff.1 h
    exact List.forall_mem_cons.2 ⟨gives_line ht, ih hls'⟩

/-- The whole numbers of a document have 64 bits with a sign. -/
theorem bounded_parse {s : List Char} {ms : List (String × Toml)} (h : parse s = some ms) :
    BoundedMembers ms := by
  obtain ⟨ls, hls, hms⟩ := Option.bind_eq_some_iff.1 h
  exact bounded_ofLines? (bounded_readLines hls) hms

end RealmRegistry.Toml
