/-
Tables from lines.

Entries and headers say piece by piece what is in which table.  A `Node` remembers how a table
came about, because that decides what may still be added to it:

* by a header of its own: only further headers below it;
* by a dotted key: further dotted keys;
* by a header below it: its own header, once.

A value that is written in one piece is closed.
-/
import RealmRegistry.Toml.Basic

namespace RealmRegistry.Toml

/-- How a table came about. -/
inductive Origin where
  | header
  | dotted
  | implied
deriving DecidableEq

/-- What has been said of a key so far. -/
inductive Node where
  | value (v : Toml)
  | table (origin : Origin) (members : List (String × Node))
  | tables (elements : List (List (String × Node)))

/-- What has been said of the keys of a table. -/
abbrev Members : Type := List (String × Node)

/-! ### The values of nodes -/

mutual

/-- The value of a node. -/
def Node.toToml : Node → Toml
  | .value v => v
  | .table _ ms => .table (membersToToml ms)
  | .tables l => .tables (elementsToToml l)

/-- The values of members. -/
def membersToToml : List (String × Node) → List (String × Toml)
  | [] => []
  | (k, n) :: r => (k, n.toToml) :: membersToToml r

/-- The values of the elements of an array. -/
def elementsToToml : List (List (String × Node)) → List (List (String × Toml))
  | [] => []
  | ms :: r => membersToToml ms :: elementsToToml r

end

/-! ### Adding to tables -/

/-- Changes what is said of a key; a new key comes last. -/
def alter (k : String) (f : Option Node → Option Node) : Members → Option Members
  | [] => (f none).map fun n => [(k, n)]
  | (k', n) :: r =>
    if k = k' then (f (some n)).map fun n' => (k', n') :: r
    else (alter k f r).map ((k', n) :: ·)

/-- Changes the last of the elements of an array. -/
def alterLast (f : Members → Option Members) (l : List Members) : Option (List Members) :=
  match l.getLast? with
  | none => none
  | some ms => (f ms).map fun ms' => l.dropLast ++ [ms']

/-- Adds a value under a key and the keys of tables before it. -/
def put : (parents : List String) → (key : String) → Toml → Members → Option Members
  | [], key, v, ms =>
    alter key (fun
      | none => some (.value v)
      | some _ => none) ms
  | p :: parents, key, v, ms =>
    alter p (fun
      | none => (put parents key v []).map (.table .dotted)
      | some (.table .dotted inner) => (put parents key v inner).map (.table .dotted)
      | some (.table .implied inner) =>
        if parents.isEmpty then none else (put parents key v inner).map (.table .implied)
      | some (.tables l) =>
        if parents.isEmpty then none else (alterLast (put parents key v) l).map .tables
      | some _ => none) ms

/-- Adds entries one after the other. -/
def fill (entries : List (Path × Toml)) (ms : Members) : Option Members :=
  entries.foldlM (fun ms (p, v) => put p.parents p.key v ms) ms

/-- The table of entries that are written in one piece. -/
def inlineTable? (entries : List (Path × Toml)) : Option Toml :=
  (fill entries []).map fun ms => .table (membersToToml ms)

/-! ### Headers -/

/-- Goes down to a table that headers name, and changes it. -/
def descend : (parents : List String) → (Members → Option Members) → Members → Option Members
  | [], f, ms => f ms
  | p :: parents, f, ms =>
    alter p (fun
      | none => (descend parents f []).map (.table .implied)
      | some (.table origin inner) => (descend parents f inner).map (.table origin)
      | some (.tables l) => (alterLast (descend parents f) l).map .tables
      | some (.value _) => none) ms

/-- The members without a key. -/
def without (k : String) (ms : Members) : Members :=
  ms.filter fun m => m.1 != k

/-- Adds a table with a header of its own, which comes last even if it was implied before. -/
def addTable (key : String) (entries : List (Path × Toml)) (ms : Members) : Option Members :=
  match ms.lookup key with
  | none => (fill entries []).map fun t => ms ++ [(key, .table .header t)]
  | some (.table .implied inner) =>
    (fill entries inner).map fun t => without key ms ++ [(key, .table .header t)]
  | some _ => none

/-- Adds an element to an array of tables. -/
def addElement (key : String) (entries : List (Path × Toml)) (ms : Members) : Option Members :=
  alter key (fun
    | none => (fill entries []).map fun t => .tables [t]
    | some (.tables l) => (fill entries []).map fun t => .tables (l ++ [t])
    | some _ => none) ms

/-! ### Documents -/

/-- The entries up to the next header, and the lines from there. -/
def leadingEntries : List Line → List (Path × Toml) × List Line
  | .entry p v :: r => let (es, more) := leadingEntries r; ((p, v) :: es, more)
  | r => ([], r)

theorem length_leadingEntries_le (ls : List Line) : (leadingEntries ls).2.length ≤ ls.length := by
  induction ls with
  | nil => simp [leadingEntries]
  | cons l r ih => cases l <;> simp only [leadingEntries, List.length_cons] <;> omega

/-- Adds the tables of lines, the first of which is a header. -/
def addTables (ms : Members) : List Line → Option Members
  | [] => some ms
  | .entry _ _ :: _ => none
  | .table p :: r =>
    match descend p.parents (addTable p.key (leadingEntries r).1) ms with
    | none => none
    | some ms' => addTables ms' (leadingEntries r).2
  | .element p :: r =>
    match descend p.parents (addElement p.key (leadingEntries r).1) ms with
    | none => none
    | some ms' => addTables ms' (leadingEntries r).2
termination_by ls => ls.length
decreasing_by
  all_goals
    have := length_leadingEntries_le r
    simp only [List.length_cons]; omega

/-- The members of the table that lines describe. -/
def ofLines? (ls : List Line) : Option (List (String × Toml)) := do
  let root ← fill (leadingEntries ls).1 []
  let ms ← addTables root (leadingEntries ls).2
  return membersToToml ms

end RealmRegistry.Toml
