/-
Histories of a registry in memory: what is left of requests that fail or are given up.

Between requests any step can be made to fail, and a replacement can be given up between any two
of its steps.  Whatever happens, a replacement leaves one of two states (`Memory.attempt_cases`):
the old one with a note of what was tried and one rollback for the transaction that was begun, if
any, or the one that the plan makes, with one commit.

* `Operation.perform`, `run` — requests, and what comes of them;
* `replay` — the replacements that succeeded, by themselves;
* `run_replay` — a history leaves the context keys that its successful replacements leave.
-/
import RealmRegistry.Proofs.Registry.Attempt
import RealmRegistry.Proofs.Registry.Transaction

namespace RealmRegistry

open Store KeyRow

/-! ### States that a replacement leaves -/

namespace Store.Memory

/-- What a replacement leaves that is under way. -/
def Left (m₀ m : Memory) : Call Transaction → Prop
  | .reading _ _ => m = m₀
  | .opening _ => m = m₀
  | .changing t _ => t.committed = false ∧
      ∃ noted, m = { m₀ with executed := noted, started := m₀.started + 1 }
  | .finished _ => True

theorem left_step {m₀ m : Memory} {c : Call Transaction} (h : Left m₀ m c) :
    Left m₀ (c.step m).2 (c.step m).1 := by
  cases c with
  | reading customer wanted =>
    rw [Call.step]
    cases (Registry.ofDatabase m).contextKeys customer with
    | error e => exact trivial
    | ok existing => exact h
  | opening changes =>
    rw [Call.step]
    rcases begin_eq m with ⟨text, hbegin⟩ | hbegin
    · simp only [hbegin, reported]
      exact trivial
    · simp only [hbegin]
      -- Beginning is noted and counted; the tables stay those from before the call.
      rw [show m = m₀ from h]
      exact ⟨rfl, m₀.executed, rfl⟩
  | changing t changes =>
    cases changes with
    | nil => exact trivial
    | cons c r =>
      obtain ⟨ht, noted, rfl⟩ := h
      rw [Call.step]
      rcases execute_eq { m₀ with executed := noted, started := m₀.started + 1 } t c with
        ⟨text, hexecute⟩ | ⟨n, hexecute⟩
      · simp only [hexecute, reported]
        exact trivial
      · simp only [hexecute]
        exact ⟨ht, _, rfl⟩
  | finished outcome => exact trivial

/-- A replacement that is given up rolls the transaction back that it began, if any. -/
theorem abandoned_eq {m m' : Memory} {customer : String} {wanted : List ContextKey}
    {patience : Option Nat} (h : attempt m customer wanted patience = (none, m')) :
    ∃ noted begun, m' = m.unchanged noted begun := by
  obtain ⟨n, c, m₁, hsteps, hnot, rfl⟩ := abandoned_of_attempt h
  have hleft := Call.steps_keep (P := Left m) left_step n (c := .reading customer wanted) rfl
  rw [hsteps] at hleft
  cases c with
  | reading _ _ => exact ⟨m.executed, 0, hleft⟩
  | opening _ => exact ⟨m.executed, 0, hleft⟩
  | changing t _ =>
    obtain ⟨ht, noted, rfl⟩ := hleft
    refine ⟨noted, 1, ?_⟩
    show release _ t = _
    rw [release, ht]
    rfl
  | finished outcome => exact absurd rfl (hnot outcome)

/-- A replacement that does not succeed changes nothing, and one that succeeds carries out its
plan for the keys that it read. -/
theorem attempt_cases (m : Memory) (customer : String) (wanted : List ContextKey)
    (patience : Option Nat) :
    (∃ outcome noted begun, attempt m customer wanted patience =
      (outcome, m.unchanged noted begun) ∧ outcome ≠ some (.ok ())) ∨
    ∃ existing noted, (Registry.ofDatabase m).contextKeys customer = .ok existing ∧
      attempt m customer wanted patience =
        (some (.ok ()), m.changed noted (plan existing wanted)) := by
  rcases h : attempt m customer wanted patience with ⟨_ | outcome, m'⟩
  · obtain ⟨noted, begun, rfl⟩ := abandoned_eq h
    refine .inl ⟨none, noted, begun, rfl, ?_⟩
    intro hnone
    cases hnone
  -- An attempt that came to its end did what the replacement does in one go.
  have hreplace := replace_of_attempt h
  rw [Registry.replaceContextKeys] at hreplace
  cases hread : (Registry.ofDatabase m).contextKeys customer with
  | error e =>
    rw [hread] at hreplace
    cases hreplace
    refine .inl ⟨_, m.executed, 0, rfl, ?_⟩
    intro hok
    cases hok
  | ok existing =>
    rw [hread] at hreplace
    rcases transact_unchanged_or m (plan existing wanted) with ⟨text, noted, begun, heq⟩ | heq
    · simp only [show transact (Registry.ofDatabase m).database _ = _ from heq] at hreplace
      cases hreplace
      refine .inl ⟨_, noted, begun, rfl, ?_⟩
      intro hok
      cases hok
    · simp only [show transact (Registry.ofDatabase m).database _ = _ from heq] at hreplace
      cases hreplace
      exact .inr ⟨existing, _, rfl, rfl⟩

/-! ### Failures -/

/-- Which steps are made to fail. -/
structure Failures where
  statement : Statement → Option String
  iteration : Statement → Option (Nat × String)
  begin : Option String
  commit : Option String

/-- Nothing is made to fail. -/
def Failures.none : Failures := ⟨fun _ => .none, fun _ => .none, .none, .none⟩

/-- Makes some steps fail from now on. -/
def failing (m : Memory) (f : Failures) : Memory :=
  { m with
    failure := f.statement
    iterationFailure := f.iteration
    beginFailure := f.begin
    commitFailure := f.commit }

end Store.Memory

/-! ### Requests -/

/-- What can be read. -/
inductive Reading where
  | configuration (realm : String)
  | adminConfiguration (realm : String)
  | configurations (realm : String)
  | contextKeys (customer : String)
  | authorizations

/-- What can be done to a registry in memory. -/
inductive Operation where
  | read (what : Reading)
  /-- it is given up after so many steps, if a number is given -/
  | replace (customer : String) (wanted : List ContextKey) (patience : Option Nat)
  | fail (failures : Memory.Failures)

/-- What comes of an operation. -/
inductive Answer where
  | configuration (x : Except Fault RealmConfiguration)
  | adminConfiguration (x : Except Fault AdminConfiguration)
  | configurations (x : Except Fault (RealmConfiguration × AdminConfiguration))
  | contextKeys (x : Except Fault (List ContextKey))
  | authorizations (x : Except Fault (List Authorization))
  /-- a replacement that is given up has no outcome -/
  | replaced (outcome : Option (Except Fault Unit))
  | failing

/-- What is read. -/
def Reading.answer (r : Registry Memory) : Reading → Answer
  | configuration realm => .configuration (r.configuration realm)
  | adminConfiguration realm => .adminConfiguration (r.adminConfiguration realm)
  | configurations realm => .configurations (r.configurations realm)
  | contextKeys customer => .contextKeys (r.contextKeys customer)
  | authorizations => .authorizations r.authorizations

/-- Carries out an operation. -/
def Operation.perform (r : Registry Memory) : Operation → Answer × Registry Memory
  | read what => (what.answer r, r)
  | replace customer wanted patience =>
    match attempt r.database customer wanted patience with
    | (outcome, m) => (.replaced outcome, { r with database := m })
  | fail failures => (.failing, { r with database := r.database.failing failures })

/-- Carries out operations one after the other, and notes what comes of each. -/
def run (r : Registry Memory) : List Operation → List (Operation × Answer) × Registry Memory
  | [] => ([], r)
  | op :: ops =>
    let (answer, next) := op.perform r
    let (log, last) := run next ops
    ((op, answer) :: log, last)

/-- The replacement that an operation was, if it succeeded. -/
def success? : Operation × Answer → Option (String × List ContextKey)
  | (.replace customer wanted _, .replaced (some (.ok ()))) => some (customer, wanted)
  | _ => none

/-- The replacements that succeeded. -/
def successes (log : List (Operation × Answer)) : List (String × List ContextKey) :=
  log.filterMap success?

/-- Carries out replacements one after the other. -/
def replay (r : Registry Memory) :
    List (String × List ContextKey) → List (Except Fault Unit) × Registry Memory
  | [] => ([], r)
  | (customer, wanted) :: calls =>
    let (outcome, next) := r.replaceContextKeys customer wanted
    let (outcomes, last) := replay next calls
    (outcome :: outcomes, last)

/-- A registry in which nothing is made to fail. -/
def Registry.undisturbed (r : Registry Memory) : Registry Memory :=
  { r with database := r.database.failing .none }

/-! ### Histories -/

/-- A registry in which nothing fails has the context keys of another one. -/
structure Follows (s r : Registry Memory) : Prop where
  keys : s.database.contextKeys = r.database.contextKeys
  queries : s.database.Open
  transactions : s.database.Calm

/-- Where a replacement reads some keys, one that follows carries out the same plan. -/
theorem Follows.replaceContextKeys {s r : Registry Memory} (h : Follows s r) {customer : String}
    {existing : List ContextKey}
    (hread : (Registry.ofDatabase r.database).contextKeys customer = .ok existing)
    (wanted : List ContextKey) :
    ∃ noted, s.replaceContextKeys customer wanted =
      (.ok (), { s with database := s.database.changed noted (plan existing wanted) }) := by
  have hrows : (s.database.contextKeys.filter (isOf customer)).map read = existing.map .ok := by
    rw [h.keys]
    exact (contextKeys_ok_iff.1 hread).2
  have hkeys : s.contextKeys customer = .ok existing := contextKeys_ok_iff.2 ⟨h.queries, hrows⟩
  obtain ⟨m, hcalm⟩ := transact_calm (σ := Memory) h.queries h.transactions (plan existing wanted)
  rcases Memory.transact_unchanged_or s.database (plan existing wanted) with
    ⟨text, noted, begun, heq⟩ | heq
  · cases heq.symm.trans hcalm
  · refine ⟨s.database.notedWith (plan existing wanted), ?_⟩
    simp only [Registry.replaceContextKeys, hkeys, heq]

/-- What an operation does to the context keys and to the counts of transactions: an operation that
is a replacement and succeeds is one commit, and any other leaves the context keys. -/
theorem perform_cases (r : Registry Memory) (op : Operation) :
    (success? (op, (op.perform r).1) = none ∧
      (op.perform r).2.database.contextKeys = r.database.contextKeys ∧
      (op.perform r).2.database.commits = r.database.commits ∧
      ∃ begun, (op.perform r).2.database.started = r.database.started + begun ∧
        (op.perform r).2.database.rollbacks = r.database.rollbacks + begun) ∨
    ∃ customer wanted existing noted,
      success? (op, (op.perform r).1) = some (customer, wanted) ∧
      (Registry.ofDatabase r.database).contextKeys customer = .ok existing ∧
      (op.perform r).2 =
        { r with database := r.database.changed noted (plan existing wanted) } := by
  cases op with
  | read what => exact .inl ⟨rfl, rfl, rfl, 0, rfl, rfl⟩
  | fail failures => exact .inl ⟨rfl, rfl, rfl, 0, rfl, rfl⟩
  | replace customer wanted patience =>
    rw [Operation.perform]
    rcases Memory.attempt_cases r.database customer wanted patience with
      ⟨outcome, noted, begun, heq, hnot⟩ | ⟨existing, noted, hread, heq⟩
    · simp only [heq]
      refine .inl ⟨?_, rfl, rfl, begun, rfl, rfl⟩
      rw [success?]
      rintro - - - ⟨⟩
      exact hnot rfl
    · simp only [heq]
      exact .inr ⟨customer, wanted, existing, noted, rfl, hread, rfl⟩

/-- A history is followed by its successful replacements, all of which succeed again. -/
theorem run_follows (ops : List Operation) {s r : Registry Memory} (h : Follows s r)
    (hcount : r.database.started = r.database.commits + r.database.rollbacks) :
    Follows (replay s (successes (run r ops).1)).2 (run r ops).2 ∧
      (∀ outcome ∈ (replay s (successes (run r ops).1)).1, outcome = .ok ()) ∧
      (run r ops).2.database.commits =
        r.database.commits + (successes (run r ops).1).length ∧
      (run r ops).2.database.started =
        (run r ops).2.database.commits + (run r ops).2.database.rollbacks := by
  induction ops generalizing s r with
  | nil => exact ⟨h, fun _ hmem => absurd hmem List.not_mem_nil, rfl, hcount⟩
  | cons op ops ih =>
    have hlog : (run r (op :: ops)).1 =
        (op, (op.perform r).1) :: (run (op.perform r).2 ops).1 := rfl
    have hlast : (run r (op :: ops)).2 = (run (op.perform r).2 ops).2 := rfl
    rw [hlog, hlast, successes]
    rcases perform_cases r op with
      ⟨hnone, hkeys, hcommits, begun, hstarted, hrollbacks⟩ |
      ⟨customer, wanted, existing, noted, hsome, hread, hnext⟩
    · -- nothing is replayed for the operation, and nothing has to be
      rw [List.filterMap_cons_none hnone, ← hcommits]
      refine ih ⟨h.keys.trans hkeys.symm, h.queries, h.transactions⟩ ?_
      omega
    · -- the replacement is replayed on the same rows, where it carries out the same plan
      obtain ⟨noted', hreplace⟩ := h.replaceContextKeys hread wanted
      have hfollows :
          Follows { s with database := s.database.changed noted' (plan existing wanted) }
            { r with database := r.database.changed noted (plan existing wanted) } :=
        ⟨congrArg (applied (plan existing wanted)) h.keys, h.queries, h.transactions⟩
      obtain ⟨hkeys, houtcomes, hcommits, hbalance⟩ := ih hfollows (by
        show r.database.started + 1 = r.database.commits + 1 + r.database.rollbacks
        omega)
      rw [List.filterMap_cons_some hsome, hnext]
      simp only [replay, hreplace]
      refine ⟨hkeys, fun outcome hmem => ?_, ?_, hbalance⟩
      · rcases List.mem_cons.1 hmem with rfl | hmem
        · rfl
        · exact houtcomes outcome hmem
      · rw [hcommits, List.length_cons]
        exact Nat.succ_add_eq_add_succ _ _

/-- Requests that fail or are given up leave nothing behind: after any history the context keys are
those that its successful replacements leave when nothing fails, there is a commit for each of
these, and every transaction that was begun was committed or rolled back. -/
theorem run_replay (r : Registry Memory) (ops : List Operation)
    (hcount : r.database.started = r.database.commits + r.database.rollbacks) :
    let calls := successes (run r ops).1
    let last := (run r ops).2.database
    last.contextKeys = (replay r.undisturbed calls).2.database.contextKeys ∧
      (∀ outcome ∈ (replay r.undisturbed calls).1, outcome = .ok ()) ∧
      last.commits = r.database.commits + calls.length ∧
      last.started = last.commits + last.rollbacks ∧
      ∀ what, ((Operation.read what).perform (run r ops).2).2 = (run r ops).2 := by
  have hfollows : Follows r.undisturbed r := ⟨rfl, ⟨rfl, rfl⟩, rfl, fun _ => rfl, rfl⟩
  obtain ⟨hlast, houtcomes, hcommits, hbalance⟩ := run_follows ops hfollows hcount
  exact ⟨hlast.keys.symm, houtcomes, hcommits, hbalance, fun _ => rfl⟩

/-- A replacement that is given up, one that cannot be committed, and one that succeeds. -/
theorem run_replay_with_failures :
    let r : Registry Memory := .ofDatabase (Memory.storing [bareKey "A" "old" "acme"])
    let ops : List Operation := [.replace "acme" [bareKey "B" "new" "acme"] (some 3),
      .fail { Memory.Failures.none with commit := some "disk full" },
      .replace "acme" [] none, .fail .none, .read (.contextKeys "acme"),
      .replace "acme" [bareKey "C" "new" "acme"] none]
    r.database.started = r.database.commits + r.database.rollbacks ∧
      (run r ops).2.database.contextKeys =
        (replay r.undisturbed (successes (run r ops).1)).2.database.contextKeys := by
  intro r ops
  exact ⟨rfl, (run_replay r ops rfl).1⟩

end RealmRegistry
