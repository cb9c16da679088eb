/-
The steps of a replacement in memory, in their order.

A replacement reads, begins a transaction, carries out its statements and commits.  It goes from
step to step up to the first at which something is made to fail, and that step is its outcome.

* `statementsFor` — deletions of what is not wanted any more, each once, and then what is wanted;
* `Memory.course`, `Memory.faultAt` — the steps, and what goes wrong at each of them;
* `Observed` — a database that keeps note of what is asked of its transactions;
* `replaceContextKeys_in_order` — which steps are taken, what is noted of them and how they end.
-/
import RealmRegistry.Proofs.Registry.Reconciled
import RealmRegistry.Proofs.Registry.Transaction

namespace RealmRegistry

open Schema Store

/-! ### Statements -/

/-- The statements that put the wanted keys in the place of the existing ones. -/
def statementsFor (existing wanted : List ContextKey) : List (Statement × List String) :=
  let stale := (existing.map ContextKey.id).filter fun i => !(wanted.map ContextKey.id).contains i
  (stale.eraseDups.map fun i => (.deleteContextKey, [i])) ++
    wanted.map fun k => (.upsertContextKey,
      [k.id, k.label, k.identitiesRealm, k.customerRealm, (toJson k.config).compact])

theorem map_note_plan (existing wanted : List ContextKey) :
    (plan existing wanted).map Change.note = statementsFor existing wanted := by
  rw [plan, staleIds, distinctFrom_eq, List.map_append, List.map_map, List.map_map]
  rfl

/-- Statements that delete before they put in, nothing twice and nothing that is wanted. -/
structure Orderly (wanted : List ContextKey) (statements : List (Statement × List String)) :
    Prop where
  deletesFirst : statements.Pairwise fun s t =>
    s.1 = .upsertContextKey → t.1 ≠ .deleteContextKey
  deletesOnce : (statements.filter fun s => s.1 = .deleteContextKey).Nodup
  sparesWanted : ∀ s ∈ statements, s.1 = .deleteContextKey →
    ∃ i, s.2 = [i] ∧ i ∉ wanted.map ContextKey.id

theorem Orderly.sublist {wanted : List ContextKey} {l m : List (Statement × List String)}
    (h : Orderly wanted m) (hl : l.Sublist m) : Orderly wanted l :=
  ⟨h.deletesFirst.sublist hl, h.deletesOnce.sublist (hl.filter _),
    fun s hs => h.sparesWanted s (hl.subset hs)⟩

theorem orderly_statementsFor (existing wanted : List ContextKey) :
    Orderly wanted (statementsFor existing wanted) := by
  rw [← map_note_plan, plan, List.map_append, List.map_map, List.map_map]
  refine ⟨?_, ?_, ?_⟩
  · refine List.pairwise_append.2 ⟨?_, ?_, ?_⟩
    · refine List.pairwise_map.2 (List.pairwise_of_forall fun i j h => ?_)
      cases h
    · refine List.pairwise_map.2 (List.pairwise_of_forall fun k l _ h => ?_)
      cases h
    · intro s hs t _
      obtain ⟨i, -, rfl⟩ := List.mem_map.1 hs
      intro h
      cases h
  · -- only the deletions are left, and no identifier is stale twice
    have hupserts : (wanted.map (Change.note ∘ .upsert)).filter
        (fun s => s.1 = .deleteContextKey) = [] := by
      simp [Change.note, Change.statement]
    rw [List.filter_append, hupserts, List.append_nil]
    refine List.Nodup.filter _ (List.Nodup.map (fun i j h => ?_) (nodup_distinctFrom _ _))
    cases h
    rfl
  · intro s hs hdelete
    rcases List.mem_append.1 hs with hs | hs
    · obtain ⟨i, hi, rfl⟩ := List.mem_map.1 hs
      exact ⟨i, rfl, (mem_staleIds.1 hi).2⟩
    · obtain ⟨k, -, rfl⟩ := List.mem_map.1 hs
      cases hdelete

/-! ### Steps -/

/-- A step of a replacement. -/
inductive Step where
  | read (customer : String)
  | begin
  | execute (statement : Statement) (params : List String)
  | commit
deriving DecidableEq

/-- The step that carries a statement out. -/
def Step.ofStatement (s : Statement × List String) : Step := .execute s.1 s.2

/-- What a fault, if there is one, makes of a replacement. -/
def ending : Option Fault → Except Fault Unit
  | some e => .error e
  | none => .ok ()

namespace Store.Memory

/-- What goes wrong at a step. -/
def faultAt (m : Memory) : Step → Option Fault
  | .read customer =>
    match (Registry.ofDatabase m).contextKeys customer with
    | .error e => some e
    | .ok _ => none
  | .begin => m.beginFailure.map fun text => .database (.reported text)
  | .execute statement _ => (m.failure statement).map fun text => .database (.reported text)
  | .commit => m.commitFailure.map fun text => .database (.reported text)

@[simp] theorem faultAt_begin (m : Memory) :
    m.faultAt .begin = m.beginFailure.map fun text => .database (.reported text) := rfl

@[simp] theorem faultAt_commit (m : Memory) :
    m.faultAt .commit = m.commitFailure.map fun text => .database (.reported text) := rfl

/-- The steps in a transaction. -/
def courseWithin (statements : List (Statement × List String)) : List Step :=
  .begin :: (statements.map Step.ofStatement ++ [.commit])

/-- The steps of a replacement; it is not known what to do unless the reading succeeds. -/
def course (m : Memory) (customer : String) (wanted : List ContextKey) : List Step :=
  .read customer ::
    match (Registry.ofDatabase m).contextKeys customer with
    | .error _ => []
    | .ok existing => courseWithin (statementsFor existing wanted)

end Store.Memory

/-! ### Observation -/

/-- A database, and what was asked of its transactions. -/
structure Observed (σ : Type) where
  database : σ
  asked : List Step

namespace Observed

variable {σ τ : Type} [Backend σ τ]

instance instBackend : Backend (Observed σ) τ where
  queryRow o := Backend.queryRow o.database
  query o := Backend.query o.database
  begin o :=
    match Backend.begin o.database with
    | (t, db) => (t, ⟨db, o.asked ++ [.begin]⟩)
  execute o t statement params :=
    match Backend.execute o.database t statement params with
    | (n, t, db) => (n, t, ⟨db, o.asked ++ [.execute statement params]⟩)
  commit o t :=
    match Backend.commit o.database t with
    | (outcome, t, db) => (outcome, t, ⟨db, o.asked ++ [.commit]⟩)
  release o t := ⟨Backend.release o.database t, o.asked⟩

end Observed

namespace Registry

variable {σ τ : Type} [Backend σ τ]

/-- A registry whose database keeps note from now on. -/
def observed (r : Registry σ) : Registry (Observed σ) := ⟨⟨r.database, []⟩, r.scope⟩

@[simp] theorem contextKeys_observed (r : Registry σ) (customer : String) :
    r.observed.contextKeys customer = r.contextKeys customer :=
  rfl

theorem replaceContextKeys_of_error {r : Registry σ} {customer : String} {e : Fault}
    (h : r.contextKeys customer = .error e) (wanted : List ContextKey) :
    r.replaceContextKeys customer wanted = (.error e, r) := by
  rw [replaceContextKeys, h]

theorem replaceContextKeys_of_ok {r : Registry σ} {customer : String}
    {existing : List ContextKey} (h : r.contextKeys customer = .ok existing)
    (wanted : List ContextKey) :
    r.replaceContextKeys customer wanted =
      ((transact r.database (plan existing wanted)).1,
        { r with database := (transact r.database (plan existing wanted)).2 }) := by
  rw [replaceContextKeys, h]

end Registry

/-! ### In order -/

namespace Store.Memory

/-- The words in which a noted statement is made to fail. -/
def failureAt (m : Memory) (s : Statement × List String) : Option String := m.failure s.1

theorem faultAt_ofStatement (m : Memory) :
    m.faultAt ∘ Step.ofStatement =
      fun s => (m.failureAt s).map fun text => .database (.reported text) :=
  rfl

theorem outcomeOf_eq (text : Option String) :
    outcomeOf text = ending (text.map fun text => .database (.reported text)) := by
  cases text <;> rfl

/-- Steps have a fault where something in them is made to fail. -/
@[simp] theorem taken_map_fault {α : Type} (failure : α → Option String) (l : List α) :
    taken (fun a => (failure a).map fun text => Fault.database (.reported text)) l =
      taken failure l := by
  simp [taken]

theorem findSome_statements (m : Memory) (statements : List (Statement × List String)) :
    (statements.map Step.ofStatement).findSome? m.faultAt =
      (statements.findSome? m.failureAt).map fun text => .database (.reported text) := by
  rw [List.findSome?_map, faultAt_ofStatement, List.map_findSome?]
  rfl

theorem findSome_courseWithin (m : Memory) (statements : List (Statement × List String)) :
    (courseWithin statements).findSome? m.faultAt =
      (m.beginFailure.or ((statements.findSome? m.failureAt).or m.commitFailure)).map
        fun text => .database (.reported text) := by
  rw [courseWithin, List.findSome?_cons, List.findSome?_append, findSome_statements]
  cases hbegin : m.beginFailure with
  | some text => simp [hbegin]
  | none => cases statements.findSome? m.failureAt <;> simp [hbegin]

/-- In a transaction the statements are carried out up to the first that fails, and if none does it
is committed. -/
theorem taken_courseWithin (m : Memory) (statements : List (Statement × List String)) :
    taken m.faultAt (courseWithin statements) =
      .begin :: if m.beginFailure = none then
        (taken m.failureAt statements).map Step.ofStatement ++
          if statements.findSome? m.failureAt = none then [.commit] else []
      else [] := by
  rw [courseWithin]
  cases hbegin : m.beginFailure with
  | some text =>
    rw [taken_cons_of_some (e := .database (.reported text)) (by simp [hbegin])]
    rfl
  | none =>
    rw [taken_cons_of_none (by simp [hbegin]), taken_append, taken_map,
      taken_singleton, findSome_statements, faultAt_ofStatement, taken_map_fault, if_pos rfl]
    simp only [Option.map_eq_none_iff]

theorem commit_mem_taken (m : Memory) (statements : List (Statement × List String)) :
    .commit ∈ taken m.faultAt (courseWithin statements) ↔
      m.faultAt .begin = none ∧ ∀ s ∈ statements, m.failureAt s = none := by
  rw [taken_courseWithin, faultAt_begin, Option.map_eq_none_iff, ← List.findSome?_eq_none_iff]
  have hstep : ∀ s : Statement × List String, Step.ofStatement s ≠ .commit := by
    intro s h
    cases h
  by_cases hbegin : m.beginFailure = none
  · by_cases hall : statements.findSome? m.failureAt = none <;> simp [hbegin, hall, hstep]
  · simp [hbegin]

/-- The outcome of a transaction is the fault of the first of its steps that has one. -/
theorem outcome_transact_plan (m : Memory) (existing wanted : List ContextKey) :
    (transact m (plan existing wanted)).1 =
      ending ((courseWithin (statementsFor existing wanted)).findSome? m.faultAt) := by
  rw [outcome_transact, outcomeOf_eq, findSome_courseWithin, ← map_note_plan, List.findSome?_map]
  rfl

/-- What a transaction notes are its statements up to the first that fails, if it is begun. -/
theorem executed_transact_plan (m : Memory) (existing wanted : List ContextKey) :
    (transact m (plan existing wanted)).2.executed =
      m.executed ++
        if m.beginFailure = none then taken m.failureAt (statementsFor existing wanted)
        else [] := by
  rw [transact_eq, ← map_note_plan, taken_map]
  cases m.beginFailure with
  | some text => simp
  | none =>
    cases ((plan existing wanted).findSome? m.failureOf).or m.commitFailure <;> rfl

end Store.Memory

namespace Observed

open Store.Memory

/-- The step that carries a change out. -/
def stepOf (c : Change) : Step := .ofStatement c.note

theorem applyChanges_eq (m : Memory) (asked : List Step) (t : Transaction)
    (changes : List Change) :
    applyChanges (⟨m, asked⟩ : Observed Memory) t changes =
      ((applyChanges m t changes).1, (applyChanges m t changes).2.1,
        ⟨(applyChanges m t changes).2.2, asked ++ (taken m.failureOf changes).map stepOf⟩) := by
  induction changes generalizing m asked t with
  | nil => simp [applyChanges]
  | cons c r ih =>
    have hexecute : Backend.execute (⟨m, asked⟩ : Observed Memory) t c.statement c.params =
        ((Backend.execute m t c.statement c.params).1,
          (Backend.execute m t c.statement c.params).2.1,
          ⟨(Backend.execute m t c.statement c.params).2.2, asked ++ [stepOf c]⟩) :=
      rfl
    rw [applyChanges, applyChanges, hexecute]
    cases h : m.failureOf c with
    | some text =>
      rw [execute_of_some h, taken_cons_of_some h]
      rfl
    | none =>
      obtain ⟨n, hn⟩ := execute_of_none h t
      rw [hn, taken_cons_of_none h]
      simp only [ih, List.map_cons, List.append_assoc]
      rfl

theorem transact_plan (m : Memory) (asked : List Step) (existing wanted : List ContextKey) :
    transact (⟨m, asked⟩ : Observed Memory) (plan existing wanted) =
      ((transact m (plan existing wanted)).1,
        ⟨(transact m (plan existing wanted)).2,
          asked ++ taken m.faultAt (courseWithin (statementsFor existing wanted))⟩) := by
  have hbegun : Backend.begin (⟨m, asked⟩ : Observed Memory) =
      ((Backend.begin m).1, ⟨(Backend.begin m).2, asked ++ [.begin]⟩) :=
    rfl
  rw [taken_courseWithin, ← map_note_plan, taken_map, List.findSome?_map, List.map_map,
    transact, transact, hbegun]
  cases hbegin : m.beginFailure with
  | some text =>
    rw [begin_of_some hbegin]
    rfl
  | none =>
    rw [begin_of_none hbegin]
    have hfailure : failureOf { m with started := m.started + 1 } = m.failureOf := rfl
    have hnote : m.failureAt ∘ Change.note = m.failureOf := rfl
    simp only [applyChanges_eq, Memory.applyChanges_eq, if_true, hfailure, hnote]
    cases h : (plan existing wanted).findSome? m.failureOf with
    | some text =>
      rw [if_neg (Option.some_ne_none text), List.append_nil, List.append_assoc asked,
        List.singleton_append]
      rfl
    | none =>
      rw [if_pos rfl, ← List.cons_append, ← List.append_assoc, List.append_assoc asked,
        List.singleton_append]
      rfl

end Observed

/-- How the steps of a replacement follow each other. -/
structure InOrder (r : Registry Memory) (customer : String) (wanted : List ContextKey) : Prop where
  /-- the outcome is the fault of the first step that has one; -/
  outcome : (r.replaceContextKeys customer wanted).1 =
    ending ((r.database.course customer wanted).findSome? r.database.faultAt)
  succeeds_iff : (r.replaceContextKeys customer wanted).1 = .ok () ↔
    ∀ s ∈ r.database.course customer wanted, r.database.faultAt s = none
  /-- up to that step, each is asked for in turn, as a database shows that keeps note of it; -/
  asked : r.observed.replaceContextKeys customer wanted =
    ((r.replaceContextKeys customer wanted).1,
      ⟨⟨(r.replaceContextKeys customer wanted).2.database,
        (taken r.database.faultAt (r.database.course customer wanted)).tail⟩, r.scope⟩)
  /-- nothing is noted if the keys are not read or no transaction is begun; -/
  unopened : r.database.faultAt (.read customer) ≠ none ∨ r.database.faultAt .begin ≠ none →
    (r.replaceContextKeys customer wanted).2.database.executed = r.database.executed
  /-- else the statements are noted up to the first that fails; -/
  opened : ∀ existing, r.contextKeys customer = .ok existing → r.database.faultAt .begin = none →
    (r.replaceContextKeys customer wanted).2.database.executed =
      r.database.executed ++ taken r.database.failureAt (statementsFor existing wanted)
  /-- a commit is asked for if all of them are carried out; -/
  commits_iff : .commit ∈ taken r.database.faultAt (r.database.course customer wanted) ↔
    ∃ existing, r.contextKeys customer = .ok existing ∧ r.database.faultAt .begin = none ∧
      ∀ s ∈ statementsFor existing wanted, r.database.failureAt s = none
  /-- and what is noted is orderly. -/
  orderly : ∃ statements, Orderly wanted statements ∧
    (r.replaceContextKeys customer wanted).2.database.executed = r.database.executed ++ statements

section Replacements

variable {r : Registry Memory} {customer : String}

theorem faultAt_read_of_error {e : Fault} (h : r.contextKeys customer = .error e) :
    r.database.faultAt (.read customer) = some e := by
  rw [Memory.faultAt, show (Registry.ofDatabase r.database).contextKeys customer = _ from h]

theorem faultAt_read_of_ok {existing : List ContextKey}
    (h : r.contextKeys customer = .ok existing) :
    r.database.faultAt (.read customer) = none := by
  rw [Memory.faultAt, show (Registry.ofDatabase r.database).contextKeys customer = _ from h]

theorem course_of_error {e : Fault} (h : r.contextKeys customer = .error e)
    (wanted : List ContextKey) : r.database.course customer wanted = [.read customer] := by
  rw [Memory.course, show (Registry.ofDatabase r.database).contextKeys customer = _ from h]

theorem course_of_ok {existing : List ContextKey} (h : r.contextKeys customer = .ok existing)
    (wanted : List ContextKey) :
    r.database.course customer wanted =
      .read customer :: Memory.courseWithin (statementsFor existing wanted) := by
  rw [Memory.course, show (Registry.ofDatabase r.database).contextKeys customer = _ from h]

@[simp] theorem ending_eq_ok {fault : Option Fault} : ending fault = .ok () ↔ fault = none := by
  cases fault <;> simp [ending]

theorem inOrder_of_error {e : Fault} (h : r.contextKeys customer = .error e)
    (wanted : List ContextKey) : InOrder r customer wanted := by
  have hreplace := r.replaceContextKeys_of_error h wanted
  have hobserved :=
    r.observed.replaceContextKeys_of_error ((r.contextKeys_observed customer).trans h) wanted
  have hfault := faultAt_read_of_error h
  constructor
  · rw [hreplace, course_of_error h, List.findSome?_cons, hfault]
    rfl
  · rw [hreplace, course_of_error h]
    simp [hfault]
  · rw [hobserved, hreplace, course_of_error h, taken_cons_of_some hfault]
    rfl
  · intro _
    rw [hreplace]
  · intro existing hread
    cases hread.symm.trans h
  · rw [course_of_error h, taken_cons_of_some hfault]
    constructor
    · intro hmem
      cases List.mem_singleton.1 hmem
    · rintro ⟨existing, hread, -⟩
      cases hread.symm.trans h
  · refine ⟨[], ⟨.nil, .nil, fun s hs => absurd hs List.not_mem_nil⟩, ?_⟩
    rw [hreplace, List.append_nil]

theorem inOrder_of_ok {existing : List ContextKey} (h : r.contextKeys customer = .ok existing)
    (wanted : List ContextKey) : InOrder r customer wanted := by
  have hreplace := r.replaceContextKeys_of_ok h wanted
  have hobserved :=
    r.observed.replaceContextKeys_of_ok ((r.contextKeys_observed customer).trans h) wanted
  rw [Registry.observed, Observed.transact_plan, List.nil_append] at hobserved
  have hfault := faultAt_read_of_ok h
  have hbegin : r.database.faultAt .begin = none ↔ r.database.beginFailure = none :=
    Option.map_eq_none_iff
  have houtcome : (r.replaceContextKeys customer wanted).1 =
      ending ((r.database.course customer wanted).findSome? r.database.faultAt) := by
    rw [hreplace, course_of_ok h, List.findSome?_cons, hfault]
    exact Memory.outcome_transact_plan r.database existing wanted
  constructor
  · exact houtcome
  · rw [houtcome, ending_eq_ok, List.findSome?_eq_none_iff]
  · rw [Registry.observed, hobserved, hreplace, course_of_ok h, taken_cons_of_none hfault]
    rfl
  · rintro (hread | hopening)
    · exact absurd hfault hread
    · rw [hreplace]
      show (transact r.database (plan existing wanted)).2.executed = _
      rw [Memory.executed_transact_plan, if_neg (mt hbegin.2 hopening), List.append_nil]
  · intro existing' hread hopening
    cases hread.symm.trans h
    rw [hreplace]
    show (transact r.database (plan existing wanted)).2.executed = _
    rw [Memory.executed_transact_plan, if_pos (hbegin.1 hopening)]
  · rw [course_of_ok h, taken_cons_of_none hfault, List.mem_cons]
    constructor
    · rintro (hread | hcommit)
      · cases hread
      · exact ⟨existing, h, (Memory.commit_mem_taken _ _).1 hcommit⟩
    · rintro ⟨existing', hread, hall⟩
      cases hread.symm.trans h
      exact .inr ((Memory.commit_mem_taken _ _).2 hall)
  · rw [hreplace]
    refine ⟨_, ?_, Memory.executed_transact_plan r.database existing wanted⟩
    -- what is noted is the beginning of what was to be carried out
    split
    · exact (orderly_statementsFor existing wanted).sublist (taken_isPrefix _).sublist
    · exact (orderly_statementsFor existing wanted).sublist (List.nil_sublist _)

end Replacements

/-- A replacement in memory takes its steps in order up to the first that fails. -/
theorem replaceContextKeys_in_order (r : Registry Memory) (customer : String)
    (wanted : List ContextKey) : InOrder r customer wanted := by
  cases h : r.contextKeys customer with
  | error e => exact inOrder_of_error h wanted
  | ok existing => exact inOrder_of_ok h wanted

/-- A key with two rows is deleted once, the first of the wanted keys fails to be put in, and the
second is not tried. -/
example :
    let key (id : String) : ContextKey :=
      ⟨id, "", "identities", "acme", standard ContextKeyConfiguration⟩
    let m : Memory :=
      { Memory.empty with
        contextKeys := ["A", "B", "A"].map fun id => KeyRow.ofKey (key id)
        failure := fun s => if s = .upsertContextKey then some "full" else none }
    let run := (Registry.ofDatabase m).replaceContextKeys "acme" [key "B", key "C"]
    run.1 = .error (.database (.reported "full")) ∧
      run.2.database.executed.map (fun s => (s.1, s.2.head?)) =
        [(.deleteContextKey, some "A"), (.upsertContextKey, some "B")] := by
  decide +kernel

end RealmRegistry
