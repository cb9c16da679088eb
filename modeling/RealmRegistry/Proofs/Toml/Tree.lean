/-
The tables that lines describe are those that the lines were made of.

The lines of the tables in a table are lines below its key, so the recursion goes over the tables:
each of them adds one node, whatever was there before (`Adds`).

* `arranged` — a table as it is read: its own entries first, then the tables in it;
* `ofLines?_lines` — the lines of a table describe the table;
* `parse_lines` — and so does their text.
-/
import Mathlib.Data.List.Nodup
import RealmRegistry.Proofs.Toml.Below
import RealmRegistry.Proofs.Toml.Line

namespace RealmRegistry.Toml

/-! ### Tables as they are read -/

/-- The entries of a table that stand on a line. -/
def ownMembers (ms : List (String × Toml)) : List (String × Toml) :=
  ms.filter fun m => isInline m.2

mutual

/-- A value as it is read: the entries of each table come before the tables in it. -/
def arranged : Toml → Toml
  | .table ms => .table (ownMembers ms ++ arrangedTables ms)
  | .tables elements => .tables (arrangedElements elements)
  | v => v

/-- The members that have headers, as they are read. -/
def arrangedTables : List (String × Toml) → List (String × Toml)
  | [] => []
  | (k, v) :: r => if isInline v then arrangedTables r else (k, arranged v) :: arrangedTables r

/-- The elements of an array of tables, as they are read. -/
def arrangedElements : List (List (String × Toml)) → List (List (String × Toml))
  | [] => []
  | ms :: r => (ownMembers ms ++ arrangedTables ms) :: arrangedElements r

end

mutual

/-- A value that can be told from its lines: the keys of each table are different, arrays of tables
have elements, and what else there is stands on a line. -/
def Regular : Toml → Prop
  | .table ms => (ms.map Prod.fst).Nodup ∧ RegularMembers ms
  | .tables elements => elements ≠ [] ∧ RegularElements elements
  | v => Plain v

/-- The same for the members of a table. -/
def RegularMembers : List (String × Toml) → Prop
  | [] => True
  | (_, v) :: r => Regular v ∧ RegularMembers r

/-- The same for the tables of an array. -/
def RegularElements : List (List (String × Toml)) → Prop
  | [] => True
  | ms :: r => ((ms.map Prod.fst).Nodup ∧ RegularMembers ms) ∧ RegularElements r

end

@[simp] theorem regularMembers_iff {ms : List (String × Toml)} :
    RegularMembers ms ↔ ∀ m ∈ ms, m.2.Regular := by
  induction ms with
  | nil => simp [RegularMembers]
  | cons m r ih => rw [RegularMembers, ih, List.forall_mem_cons]

@[simp] theorem regularElements_iff {elements : List (List (String × Toml))} :
    RegularElements elements ↔ ∀ ms ∈ elements, (Toml.table ms).Regular := by
  induction elements with
  | nil => simp [RegularElements]
  | cons ms r ih => rw [RegularElements, ih, List.forall_mem_cons, Regular]

theorem plain_of_regular {v : Toml} (h : v.Regular) (hv : isInline v = true) : v.Plain := by
  cases v with
  | table ms => cases hv
  | tables l => cases hv
  | _ => exact h

theorem arrangedTables_eq_map (ms : List (String × Toml)) :
    arrangedTables ms =
      (ms.filter fun m => !isInline m.2).map fun m => (m.1, m.2.arranged) := by
  induction ms with
  | nil => rfl
  | cons m r ih =>
    obtain ⟨k, v⟩ := m
    rw [arrangedTables, ih]
    cases hv : isInline v <;> simp [hv]

/-- Reading keeps the members of a table, in another order. -/
theorem arranged_members_perm (ms : List (String × Toml)) :
    (ownMembers ms ++ arrangedTables ms).Perm (ms.map fun m => (m.1, m.2.arranged)) := by
  have hown : ownMembers ms = (ownMembers ms).map fun m => (m.1, m.2.arranged) := by
    refine (List.map_id _).symm.trans (List.map_congr_left fun m hm => ?_)
    obtain ⟨k, v⟩ := m
    have hv : isInline v = true := (List.mem_filter.1 hm).2
    cases v with
    | table ms => cases hv
    | tables l => cases hv
    | _ => rfl
  rw [hown, arrangedTables_eq_map, ← List.map_append]
  exact (List.filter_append_perm _ ms).map _

/-! ### Lines of tables -/

@[simp] theorem keys_below (k : String) (p : Path) : (p.below k).keys = k :: p.keys := rfl

@[simp] theorem under_entryLines (k : String) (ms : List (String × Toml)) :
    (entryLines ms).map (Line.under k) = entryLines ms := by
  rw [entryLines, List.map_map]
  rfl

@[simp] theorem under_headerLines (k : String) (p : Path) (ms : List (String × Toml)) :
    (headerLines p ms).map (Line.under k) = headerLines (p.below k) ms := by
  unfold headerLines
  split <;> rfl

mutual

/-- The lines of a value below a key are its lines, below the key. -/
theorem innerLines_below (k : String) : ∀ (v : Toml) (p : Path),
    innerLines (p.below k) v = (innerLines p v).map (Line.under k)
  | .table ms, p => by
    rw [innerLines, innerLines, List.map_append, List.map_append, under_headerLines,
      under_entryLines, keys_below, tableLines_below k ms p.keys]
  | .tables elements, p => by
    rw [innerLines, innerLines, elementLines_below k elements p]
  | .flag _, _ => rfl
  | .integer _, _ => rfl
  | .float _, _ => rfl
  | .text _, _ => rfl
  | .moment _, _ => rfl
  | .list _, _ => rfl

theorem tableLines_below (k : String) : ∀ (ms : List (String × Toml)) (parents : List String),
    tableLines (k :: parents) ms = (tableLines parents ms).map (Line.under k)
  | [], _ => rfl
  | (k', v) :: r, parents => by
    rw [tableLines, tableLines, List.map_append, tableLines_below k r parents]
    congr 1
    exact innerLines_below k v ⟨parents, k'⟩

theorem elementLines_below (k : String) : ∀ (l : List (List (String × Toml))) (p : Path),
    elementLines (p.below k) l = (elementLines p l).map (Line.under k)
  | [], _ => rfl
  | ms :: r, p => by
    rw [elementLines, elementLines, List.map_append, List.map_append, List.map_cons,
      under_entryLines, keys_below, tableLines_below k ms p.keys, elementLines_below k r p]
    rfl

end

theorem headerLines_cases (p : Path) (ms : List (String × Toml)) :
    (headerLines p ms = [] ∧ entryLines ms = [] ∧ ms ≠ []) ∨ headerLines p ms = [.table p] := by
  unfold headerLines
  split
  · exact .inr rfl
  next h =>
    rw [Bool.or_eq_true, not_or] at h
    have hown : ms.filter (fun m => isInline m.2) = [] := by
      refine List.filter_eq_nil_iff.2 fun m hm hv => h.2 ?_
      exact List.any_eq_true.2 ⟨m, hm, hv⟩
    refine .inl ⟨rfl, by rw [entryLines, hown]; rfl, ?_⟩
    rintro rfl
    exact h.1 rfl

mutual

theorem headed_innerLines : ∀ (v : Toml) (p : Path), Headed (innerLines p v)
  | .table ms, p => by
    rw [innerLines]
    rcases headerLines_cases p ms with ⟨hheader, hentries, -⟩ | hheader
    · rw [hheader, hentries]
      exact headed_tableLines ms p.keys
    · rw [hheader]
      exact headed_cons rfl _
  | .tables elements, p => by
    rw [innerLines]
    exact headed_elementLines elements p
  | .flag _, _ => headed_nil
  | .integer _, _ => headed_nil
  | .float _, _ => headed_nil
  | .text _, _ => headed_nil
  | .moment _, _ => headed_nil
  | .list _, _ => headed_nil

theorem headed_tableLines : ∀ (ms : List (String × Toml)) (parents : List String),
    Headed (tableLines parents ms)
  | [], _ => headed_nil
  | (k, v) :: r, parents => by
    rw [tableLines]
    exact (headed_innerLines v ⟨parents, k⟩).append (headed_tableLines r parents)

theorem headed_elementLines : ∀ (l : List (List (String × Toml))) (p : Path),
    Headed (elementLines p l)
  | [], _ => headed_nil
  | _ :: _, _ => headed_cons rfl _

end

/-! ### Own entries -/

/-- What is said of the entries of a table that stand on a line. -/
def ownNodes (ms : List (String × Toml)) : Members :=
  (ownMembers ms).map fun m => (m.1, .value m.2)

@[simp] theorem keys_ownNodes (ms : List (String × Toml)) :
    (ownNodes ms).map Prod.fst = (ownMembers ms).map Prod.fst := by
  rw [ownNodes, List.map_map]
  rfl

theorem fill_entries {l : List (String × Toml)} {acc : Members}
    (h : (acc.map Prod.fst ++ l.map Prod.fst).Nodup) :
    fill (l.map fun m => (⟨[], m.1⟩, m.2)) acc =
      some (acc ++ l.map fun m => (m.1, .value m.2)) := by
  induction l generalizing acc with
  | nil => rw [List.map_nil, List.map_nil, List.append_nil]; rfl
  | cons m r ih =>
    have hnew : m.1 ∉ acc.map Prod.fst := by
      intro hmem
      exact (List.nodup_append.1 h).2.2 m.1 hmem m.1 (by simp) rfl
    have hput : put [] m.1 m.2 acc = some (acc ++ [(m.1, .value m.2)]) := by
      rw [put, alter_absent hnew]
      rfl
    have hnodup : ((acc ++ [(m.1, Node.value m.2)]).map Prod.fst ++ r.map Prod.fst).Nodup := by
      simpa using h
    have hnext := ih hnodup
    show (put [] m.1 m.2 acc).bind (fill (r.map fun m => (⟨[], m.1⟩, m.2))) = _
    rw [hput, Option.bind_some, hnext, List.append_assoc]
    rfl

theorem nodup_ownMembers {ms : List (String × Toml)} (h : (ms.map Prod.fst).Nodup) :
    ((ownMembers ms).map Prod.fst).Nodup :=
  h.sublist (List.filter_sublist.map _)

theorem fill_ownMembers {ms : List (String × Toml)} (h : (ms.map Prod.fst).Nodup) :
    fill ((ownMembers ms).map fun m => (⟨[], m.1⟩, m.2)) [] = some (ownNodes ms) :=
  fill_entries (nodup_ownMembers h)

theorem leadingEntries_entryLines (ms : List (String × Toml)) {ls : List Line} (h : Headed ls) :
    leadingEntries (entryLines ms ++ ls) =
      ((ownMembers ms).map (fun m => (⟨[], m.1⟩, m.2)), ls) := by
  rw [entryLines, ownMembers]
  generalize ms.filter (fun m => isInline m.2) = l
  induction l with
  | nil => exact leadingEntries_headed h
  | cons m r ih =>
    rw [List.map_cons, List.cons_append, leadingEntries, ih]
    rfl

/-! ### Tables in tables -/

section Within

variable {k : String} {acc : Members} {ms : List (String × Toml)} {ls : List Line}

theorem addTables_header (hk : k ∉ acc.map Prod.fst) (hms : (ms.map Prod.fst).Nodup)
    (h : Headed ls) : addTables acc (.table ⟨[], k⟩ :: (entryLines ms ++ ls)) =
      addTables (acc ++ [(k, .table .header (ownNodes ms))]) ls := by
  have hlookup : acc.lookup k = none := by
    rw [List.lookup_eq_none_iff]
    intro e he
    refine bne_iff_ne.2 ?_
    rintro rfl
    exact hk (List.mem_map_of_mem he)
  rw [addTables_cons, leadingEntries_entryLines ms h]
  simp only [Line.add, descend, addTable, hlookup, fill_ownMembers hms, Option.map_some,
    Option.bind_some]

theorem addTables_element (hk : k ∉ acc.map Prod.fst) (hms : (ms.map Prod.fst).Nodup)
    (h : Headed ls) (l : List Members) :
    addTables (acc ++ [(k, .tables l)]) (.element ⟨[], k⟩ :: (entryLines ms ++ ls)) =
      addTables (acc ++ [(k, .tables (l ++ [ownNodes ms]))]) ls := by
  rw [addTables_cons, leadingEntries_entryLines ms h]
  simp only [Line.add, descend, addElement, alter_last hk, fill_ownMembers hms, Option.map_some,
    Option.bind_some]

/-- The first element of an array is added like any other to an array without elements. -/
theorem addTables_element_first (hk : k ∉ acc.map Prod.fst) (r : List Line) :
    addTables acc (.element ⟨[], k⟩ :: r) =
      addTables (acc ++ [(k, .tables [])]) (.element ⟨[], k⟩ :: r) := by
  rw [addTables_cons, addTables_cons]
  congr 1
  simp only [Line.add, descend, addElement, alter_absent hk, alter_last hk, List.nil_append]

theorem addTables_within (hk : k ∉ acc.map Prod.fst) (h : Headed ls) {n : Node}
    {f : Members → Node} {inner : Members} (hn : f inner = n)
    (hinto : ∀ g : Members → Option Members, into g (some n) = (g inner).map f) :
    addTables (acc ++ [(k, n)]) (ls.map (Line.under k)) =
      (addTables inner ls).map fun inner' => acc ++ [(k, f inner')] := by
  cases ls with
  | nil => rw [List.map_nil, addTables_nil, addTables_nil, Option.map_some, hn]
  | cons l r =>
    rw [addTables_under k (h l rfl), alter_last hk, hinto, Option.map_map]
    rfl

/-- Lines below the key of a table go on with the table, -/
theorem addTables_within_table (hk : k ∉ acc.map Prod.fst) (h : Headed ls) (o : Origin)
    (inner : Members) : addTables (acc ++ [(k, .table o inner)]) (ls.map (Line.under k)) =
      (addTables inner ls).map fun inner' => acc ++ [(k, .table o inner')] :=
  addTables_within hk h rfl fun _ => rfl

/-- and those below the key of an array with its last element. -/
theorem addTables_within_last (hk : k ∉ acc.map Prod.fst) (h : Headed ls) (l : List Members)
    (inner : Members) :
    addTables (acc ++ [(k, .tables (l ++ [inner]))]) (ls.map (Line.under k)) =
      (addTables inner ls).map fun inner' => acc ++ [(k, .tables (l ++ [inner']))] := by
  refine addTables_within (f := fun inner => .tables (l ++ [inner])) hk h rfl fun g => ?_
  rw [into, alterLast_concat, Option.map_map]
  rfl

/-- Without a header of its own, a table comes about by the lines below its key. -/
theorem addTables_implied (hk : k ∉ acc.map Prod.fst) (h : Headed ls) (hne : ls ≠ []) :
    addTables acc (ls.map (Line.under k)) =
      (addTables [] ls).map fun inner => acc ++ [(k, .table .implied inner)] := by
  cases ls with
  | nil => exact absurd rfl hne
  | cons l r =>
    rw [addTables_under k (h l rfl), alter_absent hk, into, Option.map_map]
    rfl

end Within

/-! ### Values of nodes -/

@[simp] theorem membersToToml_ownNodes (ms : List (String × Toml)) (nodes : Members) :
    membersToToml (ownNodes ms ++ nodes) = ownMembers ms ++ membersToToml nodes := by
  rw [membersToToml_eq_map, membersToToml_eq_map, ownNodes, List.map_append, List.map_map]
  congr 1
  exact List.map_id _

@[simp] theorem keys_membersToToml (ms : Members) :
    (membersToToml ms).map Prod.fst = ms.map Prod.fst := by
  rw [membersToToml_eq_map, List.map_map]
  rfl

theorem mem_keys_arrangedTables {ms : List (String × Toml)} {k : String}
    (h : k ∈ (arrangedTables ms).map Prod.fst) : k ∈ ms.map Prod.fst := by
  rw [arrangedTables_eq_map, List.map_map] at h
  obtain ⟨m, hm, rfl⟩ := List.mem_map.1 h
  exact List.mem_map.2 ⟨m, (List.mem_filter.1 hm).1, rfl⟩

/-- Lines that put some nodes behind what is there, if their keys are new. -/
def Adds (ls : List Line) (nodes : Members) : Prop :=
  ∀ acc : Members, (∀ k ∈ nodes.map Prod.fst, k ∉ acc.map Prod.fst) →
    addTables acc ls = some (acc ++ nodes)

/-- What the lines of a table add to its own entries. -/
theorem Adds.own {ms : List (String × Toml)} {nodes : Members} (h : Adds (tableLines [] ms) nodes)
    (hms : (ms.map Prod.fst).Nodup) (hnodes : membersToToml nodes = arrangedTables ms) :
    addTables (ownNodes ms) (tableLines [] ms) = some (ownNodes ms ++ nodes) := by
  refine h _ fun k hk hown => ?_
  rw [keys_ownNodes] at hown
  rw [← keys_membersToToml, hnodes, arrangedTables_eq_map, List.map_map] at hk
  -- a key that is both an entry's and a table's would be there twice
  obtain ⟨m, hm, rfl⟩ := List.mem_map.1 hk
  obtain ⟨m', hm', heq⟩ := List.mem_map.1 hown
  obtain ⟨hm, hv⟩ := List.mem_filter.1 hm
  obtain ⟨hm', hv'⟩ := List.mem_filter.1 hm'
  have hsame : m' = m := List.inj_on_of_nodup_map hms hm' hm heq
  rw [hsame] at hv'
  rw [hv'] at hv
  cases hv

theorem innerLines_of_inline {v : Toml} (h : isInline v = true) (p : Path) :
    innerLines p v = [] := by
  cases v with
  | table ms => cases h
  | tables l => cases h
  | _ => rfl

/-- Lines that put further elements behind those of an array. -/
def Extends (k : String) (ls : List Line) (l : List Members) : Prop :=
  ∀ (acc : Members) (before : List Members), k ∉ acc.map Prod.fst →
    addTables (acc ++ [(k, .tables before)]) ls = some (acc ++ [(k, .tables (before ++ l))])

section Nodes

variable {k : String} {ms : List (String × Toml)} {nodes : Members} {l : List Members}

theorem tableLines_singleton (k : String) (ms : List (String × Toml)) :
    tableLines [k] ms = (tableLines [] ms).map (Line.under k) :=
  tableLines_below k ms []

theorem headed_under (k : String) (ms : List (String × Toml)) :
    Headed ((tableLines [] ms).map (Line.under k)) :=
  tableLines_singleton k ms ▸ headed_tableLines ms [k]

theorem toToml_table (hnodes : membersToToml nodes = arrangedTables ms) (o : Origin) :
    (Node.table o (ownNodes ms ++ nodes)).toToml = (Toml.table ms).arranged := by
  rw [Node.toToml, membersToToml_ownNodes, hnodes, arranged]

/-- A table with members has lines of its own or of the tables in it. -/
theorem tableLines_ne_nil (hms : (ms.map Prod.fst).Nodup) (hadds : Adds (tableLines [] ms) nodes)
    (hnodes : membersToToml nodes = arrangedTables ms) (hown : ownMembers ms = [])
    (hne : ms ≠ []) : tableLines [] ms ≠ [] := by
  intro hnil
  have hall := hadds.own hms hnodes
  rw [hnil, addTables_nil, ownNodes, hown] at hall
  -- without lines there would be no nodes, and so no members
  have hnone : nodes = [] := (Option.some.inj hall).symm
  have hperm := arranged_members_perm ms
  rw [hown, ← hnodes, hnone] at hperm
  exact hne (List.map_eq_nil_iff.1 (List.nil_perm.1 hperm))

/-- The lines of a table add one node. -/
theorem adds_table (hms : (ms.map Prod.fst).Nodup) (hadds : Adds (tableLines [] ms) nodes)
    (hnodes : membersToToml nodes = arrangedTables ms) :
    ∃ o, Adds (innerLines ⟨[], k⟩ (.table ms)) [(k, .table o (ownNodes ms ++ nodes))] := by
  have hown := hadds.own hms hnodes
  have hhead := headed_tableLines ms []
  have hlines : innerLines ⟨[], k⟩ (.table ms) =
      headerLines ⟨[], k⟩ ms ++ entryLines ms ++ (tableLines [] ms).map (Line.under k) := by
    rw [← tableLines_singleton, innerLines]
    rfl
  rw [hlines]
  rcases headerLines_cases ⟨[], k⟩ ms with ⟨hheader, hentries, hne⟩ | hheader
  · -- the table comes about by the tables in it
    have hnone : ownMembers ms = [] := List.map_eq_nil_iff.1 hentries
    have hsome := tableLines_ne_nil hms hadds hnodes hnone hne
    refine ⟨.implied, fun acc hacc => ?_⟩
    have hk : k ∉ acc.map Prod.fst := hacc k (List.mem_singleton.2 rfl)
    rw [show ownNodes ms = [] by rw [ownNodes, hnone]; rfl] at hown ⊢
    rw [hheader, hentries, List.nil_append, List.nil_append, addTables_implied hk hhead hsome, hown]
    rfl
  · refine ⟨.header, fun acc hacc => ?_⟩
    have hk : k ∉ acc.map Prod.fst := hacc k (List.mem_singleton.2 rfl)
    rw [hheader, List.append_assoc, List.singleton_append,
      addTables_header hk hms (headed_under k ms), addTables_within_table hk hhead, hown]
    rfl

/-- The lines of an array with elements add one node. -/
theorem adds_tables {elements : List (List (String × Toml))} (hne : elements ≠ [])
    (h : Extends k (elementLines ⟨[], k⟩ elements) l) :
    Adds (innerLines ⟨[], k⟩ (.tables elements)) [(k, .tables l)] := by
  intro acc hacc
  have hk : k ∉ acc.map Prod.fst := hacc k (List.mem_singleton.2 rfl)
  have hfirst := h acc [] hk
  rw [innerLines]
  cases elements with
  | nil => exact absurd rfl hne
  | cons ms r =>
    rw [elementLines, List.cons_append, List.cons_append] at hfirst ⊢
    rw [addTables_element_first hk, hfirst]
    rfl

/-- The lines of the first element and those of the others. -/
theorem extends_cons {r : List (List (String × Toml))} (hms : (ms.map Prod.fst).Nodup)
    (hadds : Adds (tableLines [] ms) nodes) (hnodes : membersToToml nodes = arrangedTables ms)
    (hmore : Extends k (elementLines ⟨[], k⟩ r) l) :
    Extends k (elementLines ⟨[], k⟩ (ms :: r)) ((ownNodes ms ++ nodes) :: l) := by
  intro acc before hk
  have hlines : elementLines ⟨[], k⟩ (ms :: r) =
      (.element ⟨[], k⟩ :: (entryLines ms ++ (tableLines [] ms).map (Line.under k))) ++
        elementLines ⟨[], k⟩ r := by
    rw [← tableLines_singleton, elementLines]
    rfl
  rw [hlines, addTables_append (headed_elementLines r ⟨[], k⟩),
    addTables_element hk hms (headed_under k ms),
    addTables_within_last hk (headed_tableLines ms []), hadds.own hms hnodes, Option.map_some,
    Option.bind_some, hmore acc _ hk, List.append_assoc]
  rfl

/-- The lines of the first table and those of the others. -/
theorem adds_cons {ls ls' : List Line} {n : Node} (hadd : Adds ls [(k, n)])
    (hadds : Adds ls' nodes) (hhead : Headed ls') (hk : k ∉ nodes.map Prod.fst) :
    Adds (ls ++ ls') ((k, n) :: nodes) := by
  intro acc hacc
  have hfirst : ∀ k' ∈ [(k, n)].map Prod.fst, k' ∉ acc.map Prod.fst := by
    intro k' hk'
    rw [List.mem_singleton.1 hk']
    exact hacc k List.mem_cons_self
  have hothers : ∀ k' ∈ nodes.map Prod.fst, k' ∉ (acc ++ [(k, n)]).map Prod.fst := by
    intro k' hk' hmem
    rw [List.map_append, List.mem_append] at hmem
    rcases hmem with hmem | hmem
    · exact hacc k' (List.mem_cons_of_mem _ hk') hmem
    · rw [List.mem_singleton.1 hmem] at hk'
      exact hk hk'
  rw [addTables_append hhead, hadd acc hfirst, Option.bind_some, hadds _ hothers,
    List.append_assoc]
  rfl

end Nodes

mutual

/-- The lines of a value with headers add one node, whose value is the value as it is read. -/
theorem exists_node : ∀ (v : Toml) (k : String), v.Regular → isInline v = false →
    ∃ n : Node, n.toToml = v.arranged ∧ Adds (innerLines ⟨[], k⟩ v) [(k, n)]
  | .table ms, k, hv, _ => by
    obtain ⟨nodes, hnodes, hadds⟩ := exists_nodes ms hv.1 hv.2
    obtain ⟨o, hadd⟩ := adds_table (k := k) hv.1 hadds hnodes
    exact ⟨_, toToml_table hnodes o, hadd⟩
  | .tables elements, k, hv, _ => by
    obtain ⟨l, hl, hextends⟩ := exists_elements elements k hv.2
    exact ⟨.tables l, by rw [Node.toToml, hl, arranged], adds_tables hv.1 hextends⟩
  | .flag _, _, _, h => absurd h (by simp [isInline])
  | .integer _, _, _, h => absurd h (by simp [isInline])
  | .float _, _, _, h => absurd h (by simp [isInline])
  | .text _, _, _, h => absurd h (by simp [isInline])
  | .moment _, _, _, h => absurd h (by simp [isInline])
  | .list _, _, _, h => absurd h (by simp [isInline])

/-- The lines of the tables in a table add one node for each. -/
theorem exists_nodes : ∀ ms : List (String × Toml), (ms.map Prod.fst).Nodup →
    RegularMembers ms →
    ∃ nodes : Members, membersToToml nodes = arrangedTables ms ∧ Adds (tableLines [] ms) nodes
  | [], _, _ => ⟨[], rfl, fun acc _ => by rw [tableLines, addTables_nil, List.append_nil]⟩
  | (k, v) :: r, hms, hregular => by
    obtain ⟨hk, hr⟩ := List.nodup_cons.1 hms
    obtain ⟨nodes, hnodes, hadds⟩ := exists_nodes r hr hregular.2
    rw [tableLines, arrangedTables]
    cases hv : isInline v with
    | true =>
      rw [innerLines_of_inline hv, List.nil_append]
      exact ⟨nodes, hnodes, hadds⟩
    | false =>
      obtain ⟨n, hn, hadd⟩ := exists_node v k hregular.1 hv
      -- the key of the first table is that of no other
      have hnew : k ∉ nodes.map Prod.fst := by
        rw [← keys_membersToToml, hnodes]
        exact fun hmem => hk (mem_keys_arrangedTables hmem)
      refine ⟨(k, n) :: nodes, ?_, adds_cons hadd hadds (headed_tableLines r []) hnew⟩
      rw [membersToToml, hn, hnodes]
      rfl

/-- The lines of the elements of an array add them to those that are there. -/
theorem exists_elements : ∀ (elements : List (List (String × Toml))) (k : String),
    RegularElements elements → ∃ l : List Members,
      elementsToToml l = arrangedElements elements ∧ Extends k (elementLines ⟨[], k⟩ elements) l
  | [], _, _ => ⟨[], rfl, fun acc before _ => by
      rw [elementLines, addTables_nil, List.append_nil]⟩
  | ms :: r, k, h => by
    obtain ⟨nodes, hnodes, hadds⟩ := exists_nodes ms h.1.1 h.1.2
    obtain ⟨l, hl, hmore⟩ := exists_elements r k h.2
    refine ⟨(ownNodes ms ++ nodes) :: l, ?_, extends_cons h.1.1 hadds hnodes hmore⟩
    rw [elementsToToml, membersToToml_ownNodes, hnodes, hl, arrangedElements]

end

/-- The lines of a table describe the table. -/
theorem ofLines?_lines {ms : List (String × Toml)} (h : (Toml.table ms).Regular) :
    ofLines? (lines ms) = some (ownMembers ms ++ arrangedTables ms) := by
  obtain ⟨hms, hregular⟩ := h
  obtain ⟨nodes, hnodes, hadds⟩ := exists_nodes ms hms hregular
  rw [ofLines?, lines, leadingEntries_entryLines ms (headed_tableLines ms [])]
  simp only [fill_ownMembers hms, hadds.own hms hnodes, Option.bind_eq_bind, Option.bind_some,
    membersToToml_ownNodes, hnodes]
  rfl

/-! ### Documents -/

theorem clean_entryLines {ms : List (String × Toml)} (h : RegularMembers ms)
    (hd : membersDepth ms ≤ maxDepth) : ∀ l ∈ entryLines ms, l.Clean := by
  intro l hl
  obtain ⟨m, hm, rfl⟩ := List.mem_map.1 hl
  obtain ⟨hm, hv⟩ := List.mem_filter.1 hm
  exact ⟨show 1 ≤ maxDepth by decide, plain_of_regular (regularMembers_iff.1 h m hm) hv,
    membersDepth_le_iff.1 hd m hm⟩

mutual

/-- The path of a header is as long as its table is deep, so all lines are clean if the tables do
not nest too deep. -/
theorem clean_innerLines : ∀ (v : Toml) (p : Path), v.Regular →
    p.keys.length + v.depth ≤ maxDepth + 1 → ∀ l ∈ innerLines p v, l.Clean
  | .table ms, p, hv, hd, l, hl => by
    have hd : p.keys.length + membersDepth ms ≤ maxDepth := by
      rw [depth] at hd
      omega
    rw [innerLines, List.mem_append, List.mem_append] at hl
    rcases hl with (hl | hl) | hl
    · rcases headerLines_cases p ms with ⟨hheader, -⟩ | hheader
      · rw [hheader] at hl
        exact absurd hl List.not_mem_nil
      · rw [hheader] at hl
        rw [List.mem_singleton.1 hl]
        exact Nat.le_trans (Nat.le_add_right _ _) hd
    · exact clean_entryLines hv.2 (by omega) l hl
    · exact clean_tableLines ms p.keys hv.2 hd l hl
  | .tables elements, p, hv, hd, l, hl => by
    rw [depth] at hd
    rw [innerLines] at hl
    exact clean_elementLines elements p hv.2 (by omega) l hl
  | .flag _, _, _, _, _, hl => absurd hl List.not_mem_nil
  | .integer _, _, _, _, _, hl => absurd hl List.not_mem_nil
  | .float _, _, _, _, _, hl => absurd hl List.not_mem_nil
  | .text _, _, _, _, _, hl => absurd hl List.not_mem_nil
  | .moment _, _, _, _, _, hl => absurd hl List.not_mem_nil
  | .list _, _, _, _, _, hl => absurd hl List.not_mem_nil

theorem clean_tableLines : ∀ (ms : List (String × Toml)) (parents : List String),
    RegularMembers ms → parents.length + membersDepth ms ≤ maxDepth →
    ∀ l ∈ tableLines parents ms, l.Clean
  | [], _, _, _, _, hl => absurd hl List.not_mem_nil
  | (k, v) :: r, parents, h, hd, l, hl => by
    rw [membersDepth] at hd
    rw [tableLines, List.mem_append] at hl
    have hlength : (⟨parents, k⟩ : Path).keys.length = parents.length + 1 := by
      simp [Path.keys]
    rcases hl with hl | hl
    · exact clean_innerLines v ⟨parents, k⟩ h.1 (by omega) l hl
    · exact clean_tableLines r parents h.2 (by omega) l hl

theorem clean_elementLines : ∀ (elements : List (List (String × Toml))) (p : Path),
    RegularElements elements → p.keys.length + elementsDepth elements ≤ maxDepth →
    ∀ l ∈ elementLines p elements, l.Clean
  | [], _, _, _, _, hl => absurd hl List.not_mem_nil
  | ms :: r, p, h, hd, l, hl => by
    rw [elementsDepth] at hd
    rw [elementLines, List.mem_append, List.mem_append] at hl
    rcases hl with (hl | hl) | hl
    · rcases List.mem_cons.1 hl with rfl | hl
      · exact show p.keys.length ≤ maxDepth by omega
      · exact clean_entryLines h.1.2 (by omega) l hl
    · exact clean_tableLines ms p.keys h.1.2 (by omega) l hl
    · exact clean_elementLines r p h.2 (by omega) l hl

end

/-- A table is read back from its text, each table in it with its own entries first. -/
theorem parse_lines {ms : List (String × Toml)} (h : (Toml.table ms).Regular)
    (hd : membersDepth ms ≤ maxDepth) :
    parse (render true (lines ms)) = some (ownMembers ms ++ arrangedTables ms) := by
  have hclean : ∀ l ∈ lines ms, l.Clean := by
    intro l hl
    rcases List.mem_append.1 hl with hl | hl
    · exact clean_entryLines h.2 hd l hl
    · exact clean_tableLines ms [] h.2 (by rw [List.length_nil]; omega) l hl
  rw [parse_render hclean, ofLines?_lines h]

end RealmRegistry.Toml
