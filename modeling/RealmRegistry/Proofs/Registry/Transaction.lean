/-
Transactions in memory, and all that comes of them.

Changes are noted and carried out one after the other up to the first that is made to fail, which is
noted too (`taken`).  A transaction comes to the first thing in it that is made to fail: its
beginning, one of its changes or its commit.

* `taken` — the steps up to a fault, and the one with the fault;
* `Memory.applyChanges_eq`, `Memory.transact_eq` — the outcome of a transaction and what it leaves;
* `Memory.transact_unchanged_or` — it leaves one of two states.
-/
import Mathlib.Data.List.TakeWhile
import RealmRegistry.Proofs.Registry.Tabular

namespace RealmRegistry

open Schema Store KeyRow

/-! ### Up to a fault -/

section Taken

variable {α β ε : Type} {fault : α → Option ε}

/-- The steps that are taken, one after the other: those before the first fault, and the one with
the fault. -/
def taken (fault : α → Option ε) (steps : List α) : List α :=
  (steps.takeWhile fun s => (fault s).isNone) ++ (steps.find? fun s => (fault s).isSome).toList

@[simp] theorem taken_nil (fault : α → Option ε) : taken fault [] = [] := rfl

theorem taken_cons_of_some {s : α} {e : ε} (h : fault s = some e) (r : List α) :
    taken fault (s :: r) = [s] := by
  simp [taken, h]

theorem taken_cons_of_none {s : α} (h : fault s = none) (r : List α) :
    taken fault (s :: r) = s :: taken fault r := by
  simp [taken, h]

@[simp] theorem taken_singleton (fault : α → Option ε) (s : α) : taken fault [s] = [s] := by
  cases h : fault s with
  | some e => exact taken_cons_of_some h []
  | none => exact taken_cons_of_none h []

theorem taken_isPrefix (steps : List α) : taken fault steps <+: steps := by
  induction steps with
  | nil => exact List.prefix_rfl
  | cons s r ih =>
    cases h : fault s with
    | some e =>
      rw [taken_cons_of_some h]
      exact ⟨r, rfl⟩
    | none =>
      rw [taken_cons_of_none h]
      exact List.cons_prefix_cons.2 ⟨rfl, ih⟩

theorem taken_map {f : β → α} (steps : List β) :
    taken fault (steps.map f) = (taken (fault ∘ f) steps).map f := by
  induction steps with
  | nil => rfl
  | cons s r ih =>
    rw [List.map_cons]
    cases h : fault (f s) with
    | some e =>
      have hf : (fault ∘ f) s = some e := h
      rw [taken_cons_of_some h, taken_cons_of_some hf]
      rfl
    | none =>
      have hf : (fault ∘ f) s = none := h
      rw [taken_cons_of_none h, taken_cons_of_none hf, ih]
      rfl

/-- Behind steps without a fault the steps go on, and else nothing more is done. -/
theorem taken_append (steps more : List α) :
    taken fault (steps ++ more) =
      taken fault steps ++ if steps.findSome? fault = none then taken fault more else [] := by
  induction steps with
  | nil => simp
  | cons s r ih =>
    rw [List.cons_append]
    cases h : fault s with
    | some e => simp [taken_cons_of_some h, h]
    | none => simp [taken_cons_of_none h, h, ih]

end Taken

/-! ### Transactions in memory -/

/-- What is noted of a change. -/
def Change.note (c : Change) : Statement × List String := (c.statement, c.params)

namespace Store.Memory

/-- The words in which a change is made to fail. -/
def failureOf (m : Memory) (c : Change) : Option String := m.failure c.statement

/-- The outcome of an attempt that may be made to fail. -/
def outcomeOf : Option String → Except Fault Unit
  | some text => reported text
  | none => .ok ()

/-- What is noted when changes are carried out up to the first that fails. -/
def notedWith (m : Memory) (changes : List Change) : List (Statement × List String) :=
  m.executed ++ (taken m.failureOf changes).map Change.note

theorem execute_of_some {m : Memory} {c : Change} {text : String} (h : m.failureOf c = some text)
    (t : Transaction) :
    Backend.execute m t c.statement c.params =
      (reported text, t, { m with executed := m.executed ++ [c.note] }) := by
  show m.execute t c.statement c.params = _
  rw [execute, show m.failure c.statement = some text from h]
  rfl

theorem execute_of_none {m : Memory} {c : Change} (h : m.failureOf c = none) (t : Transaction) :
    ∃ n, Backend.execute m t c.statement c.params =
      (.ok n, { t with staged := c.onRows t.staged },
        { m with executed := m.executed ++ [c.note] }) := by
  obtain ⟨n, hchange⟩ := change_eq c t.staged
  refine ⟨n, ?_⟩
  show m.execute t c.statement c.params = _
  rw [execute, show m.failure c.statement = none from h, hchange]
  rfl

/-- Changes are noted and carried out on the copy up to the first that fails, which is noted too. -/
theorem applyChanges_eq (m : Memory) (t : Transaction) (changes : List Change) :
    applyChanges m t changes =
      (outcomeOf (changes.findSome? m.failureOf),
        { t with staged := applied (changes.takeWhile fun c => (m.failureOf c).isNone) t.staged },
        { m with executed := m.notedWith changes }) := by
  induction changes generalizing m t with
  | nil =>
    simp only [applyChanges, notedWith, taken_nil, List.map_nil, List.append_nil]
    rfl
  | cons c r ih =>
    rw [applyChanges, notedWith]
    cases h : m.failureOf c with
    | some text =>
      simp only [execute_of_some h, reported, taken_cons_of_some h, List.findSome?_cons,
        List.takeWhile_cons, h]
      rfl
    | none =>
      obtain ⟨n, hexecute⟩ := execute_of_none h t
      -- what fails is the same in the database in which the change is noted
      simp only [hexecute, ih, notedWith, taken_cons_of_none h, List.findSome?_cons,
        List.takeWhile_cons, h, List.map_cons, List.append_assoc]
      rfl

/-- Nothing was changed; what was tried was noted, and as many transactions were begun as rolled
back. -/
def unchanged (m : Memory) (noted : List (Statement × List String)) (begun : Nat) : Memory :=
  { m with executed := noted, started := m.started + begun, rollbacks := m.rollbacks + begun }

/-- Changes were committed. -/
def changed (m : Memory) (noted : List (Statement × List String)) (changes : List Change) :
    Memory :=
  { m with
    contextKeys := applied changes m.contextKeys
    executed := noted
    started := m.started + 1
    commits := m.commits + 1 }

theorem begin_of_some {m : Memory} {text : String} (h : m.beginFailure = some text) :
    Backend.begin m = (reported text, m) := by
  show m.begin = _
  rw [begin, h]

theorem begin_of_none {m : Memory} (h : m.beginFailure = none) :
    Backend.begin m = (.ok ⟨m.contextKeys, false⟩, { m with started := m.started + 1 }) := by
  show m.begin = _
  rw [begin, h]

/-- A transaction whose commit is made to fail is rolled back. -/
theorem commit_release_eq (m : Memory) {t : Transaction} (ht : t.committed = false) :
    ((m.commit t).1, (m.commit t).2.2.release (m.commit t).2.1) =
      match m.commitFailure with
      | some text => (reported text, { m with rollbacks := m.rollbacks + 1 })
      | none => (.ok (), { m with contextKeys := t.staged, commits := m.commits + 1 }) := by
  rw [commit]
  cases h : m.commitFailure with
  | some text => simp only [release, ht, h, Bool.false_eq_true, if_false]
  | none => rfl

/-- A transaction fails as its beginning does, else as the first of its changes that fails, else as
its commit; whatever fails once it is begun is rolled back. -/
theorem transact_eq (m : Memory) (changes : List Change) :
    transact m changes =
      match m.beginFailure with
      | some text => (reported text, m)
      | none =>
        match (changes.findSome? m.failureOf).or m.commitFailure with
        | some text => (reported text, m.unchanged (m.notedWith changes) 1)
        | none => (.ok (), m.changed (m.notedWith changes) changes) := by
  rw [transact]
  cases hbegin : m.beginFailure with
  | some text => rw [begin_of_some hbegin]; rfl
  | none =>
    rw [begin_of_none hbegin]
    have hsame : failureOf { m with started := m.started + 1 } = m.failureOf := rfl
    simp only [applyChanges_eq, hsame]
    cases h : changes.findSome? m.failureOf with
    | some text => rfl
    | none =>
      -- no change fails, so all of them are carried out on the copy
      have hall : (changes.takeWhile fun c => (m.failureOf c).isNone) = changes := by
        refine List.takeWhile_eq_self_iff.2 fun c hc => ?_
        rw [List.findSome?_eq_none_iff.1 h c hc]
        rfl
      simp only [outcomeOf, hall, Option.none_or]
      exact commit_release_eq _ rfl

theorem outcome_transact (m : Memory) (changes : List Change) :
    (transact m changes).1 =
      outcomeOf (m.beginFailure.or ((changes.findSome? m.failureOf).or m.commitFailure)) := by
  rw [transact_eq]
  cases m.beginFailure with
  | some text => rfl
  | none =>
    rw [Option.none_or]
    cases (changes.findSome? m.failureOf).or m.commitFailure <;> rfl

theorem transact_unchanged_or (m : Memory) (changes : List Change) :
    (∃ text noted begun, transact m changes = (reported text, m.unchanged noted begun)) ∨
      transact m changes = (.ok (), m.changed (m.notedWith changes) changes) := by
  rw [transact_eq]
  cases m.beginFailure with
  | some text => exact .inl ⟨text, m.executed, 0, rfl⟩
  | none =>
    cases (changes.findSome? m.failureOf).or m.commitFailure with
    | some text => exact .inl ⟨text, _, 1, rfl⟩
    | none => exact .inr rfl

end Store.Memory

end RealmRegistry
