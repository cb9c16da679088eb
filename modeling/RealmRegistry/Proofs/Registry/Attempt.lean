/-
Replacements step by step, which can be given up between any two steps.

Steps lead where the replacement as a whole leads (`Call.finish_steps`), so a call that comes to
its end in however many steps is the replacement.  One that is given up before leaves the rows as
they were, since its transaction is released without a commit.

* `attempt` — a replacement by someone with so much patience;
* `replace_of_attempt`, `rows_of_abandoned` — what comes of it;
* `rows_attempt` — either way the plan is carried out as a whole or not at all.
-/
import RealmRegistry.Proofs.Registry.Replacement

namespace RealmRegistry

open Store KeyRow

section Attempts

variable {σ τ : Type} [Backend σ τ]

/-! ### Steps -/

namespace Call

/-- So many steps of a replacement. -/
def steps : Nat → σ → Call τ → Call τ × σ
  | 0, db, c => (c, db)
  | n + 1, db, c => steps n (c.step db).2 (c.step db).1

/-- What a transaction in progress comes to. -/
def conclude (db : σ) (t : τ) (changes : List Change) : Except Fault Unit × σ :=
  match applyChanges db t changes with
  | (.error e, t, db) => (.error e, Backend.release db t)
  | (.ok _, t, db) =>
    match Backend.commit db t with
    | (outcome, t, db) => (outcome, Backend.release db t)

/-- What a replacement comes to that is carried on to its end. -/
def finish (db : σ) : Call τ → Except Fault Unit × σ
  | reading customer wanted =>
    match (Registry.ofDatabase db).replaceContextKeys customer wanted with
    | (outcome, r) => (outcome, r.database)
  | opening changes => transact db changes
  | changing t changes => conclude db t changes
  | finished outcome => (outcome, db)

/-- A step leads where the call leads. -/
@[simp] theorem finish_step (db : σ) (c : Call τ) :
    (c.step db).1.finish (c.step db).2 = c.finish db := by
  cases c with
  | reading customer wanted =>
    rw [step, finish, Registry.replaceContextKeys]
    cases hread : (Registry.ofDatabase db).contextKeys customer with
    | error e => rfl
    | ok existing => rfl
  | opening changes =>
    rw [step, finish, transact]
    rcases Backend.begin db with ⟨e | t, db₁⟩ <;> rfl
  | changing t changes =>
    cases changes with
    | nil =>
      rw [step, finish, conclude]
      simp only [applyChanges]
      rfl
    | cons c r =>
      rw [step, finish, conclude]
      simp only [applyChanges]
      rcases Backend.execute db t c.statement c.params with ⟨e | n, t₁, db₁⟩ <;> rfl
  | finished outcome => rfl

/-- What each step keeps, all of them keep. -/
theorem steps_keep {P : σ → Call τ → Prop}
    (hstep : ∀ {db c}, P db c → P (c.step db).2 (c.step db).1) (n : Nat) {db : σ} {c : Call τ}
    (h : P db c) : P (steps n db c).2 (steps n db c).1 := by
  induction n generalizing db c with
  | zero => exact h
  | succ n ih => exact ih (hstep h)

@[simp] theorem finish_steps (n : Nat) (db : σ) (c : Call τ) :
    (steps n db c).1.finish (steps n db c).2 = c.finish db :=
  steps_keep (P := fun db' c' => c'.finish db' = c.finish db)
    (fun h => (finish_step _ _).trans h) n rfl

end Call

/-- A replacement that is given up after so many steps, unless it has come to its end; without a
number it is carried on to its end.  One that is given up has no outcome. -/
def attempt (db : σ) (customer : String) (wanted : List ContextKey) :
    (patience : Option Nat) → Option (Except Fault Unit) × σ
  | none =>
    match (Registry.ofDatabase db).replaceContextKeys customer wanted with
    | (outcome, r) => (some outcome, r.database)
  | some n =>
    match Call.steps n db (.reading customer wanted) with
    | (.finished outcome, db') => (some outcome, db')
    | (c, db') => (none, c.abandon db')

/-- An attempt with an outcome is the replacement. -/
theorem replace_of_attempt {db db' : σ} {customer : String} {wanted : List ContextKey}
    {patience : Option Nat} {outcome : Except Fault Unit}
    (h : attempt db customer wanted patience = (some outcome, db')) :
    (Registry.ofDatabase db).replaceContextKeys customer wanted = (outcome, .ofDatabase db') := by
  -- a replacement leaves the scope as it is, so its database says all
  have hreplace (o : Except Fault Unit) (hfinish : Call.finish db
      (.reading customer wanted : Call τ) = (o, db')) :
      (Registry.ofDatabase db).replaceContextKeys customer wanted = (o, .ofDatabase db') := by
    rw [Call.finish] at hfinish
    rw [Registry.replaceContextKeys] at hfinish ⊢
    cases hread : (Registry.ofDatabase db).contextKeys customer with
    | error e => rw [hread] at hfinish; cases hfinish; rfl
    | ok existing => rw [hread] at hfinish; cases hfinish; rfl
  cases patience with
  | none =>
    refine hreplace outcome ?_
    rw [Call.finish]
    simp only [attempt] at h
    cases h
    rfl
  | some n =>
    have hfinish := Call.finish_steps n db (.reading customer wanted : Call τ)
    rw [attempt] at h
    split at h
    next o db₁ hsteps =>
      cases h
      rw [hsteps] at hfinish
      exact hreplace outcome hfinish.symm
    next => cases h

/-- One without an outcome was given up at a step that is not the last. -/
theorem abandoned_of_attempt {db db' : σ} {customer : String} {wanted : List ContextKey}
    {patience : Option Nat} (h : attempt db customer wanted patience = (none, db')) :
    ∃ n c db₁, Call.steps n db (.reading customer wanted : Call τ) = (c, db₁) ∧
      (∀ outcome, c ≠ .finished outcome) ∧ c.abandon db₁ = db' := by
  cases patience with
  | none =>
    simp only [attempt] at h
    cases h
  | some n =>
    rw [attempt] at h
    split at h
    next => cases h
    next c db₁ hnot hsteps =>
      cases h
      exact ⟨n, c, db₁, hsteps, hnot, rfl⟩

/-! ### Rows -/

section Rows

variable {ρ : Type} [KeyRow ρ] [Tabular σ τ ρ]

/-- A replacement is under way and has changed nothing yet. -/
def Call.Pending (db₀ db : σ) : Call τ → Prop
  | .reading _ _ => Tabular.rows db = Tabular.rows db₀
  | .opening _ => Tabular.rows db = Tabular.rows db₀ ∧ Tabular.Open db
  | .changing t _ => Tabular.rows db = Tabular.rows db₀ ∧ ∃ l, Tabular.Holds db t l
  | .finished _ => True

theorem Call.pending_step {db₀ db : σ} {c : Call τ} (h : c.Pending db₀ db) :
    (c.step db).1.Pending db₀ (c.step db).2 := by
  cases c with
  | reading customer wanted =>
    rw [step]
    cases hread : (Registry.ofDatabase db).contextKeys customer with
    | error e => exact trivial
    | ok existing => exact ⟨h, (contextKeys_ok_iff.1 hread).1⟩
  | opening changes =>
    rw [step]
    rcases hbegin : Backend.begin db with ⟨e | t, db₁⟩
    · exact trivial
    · obtain ⟨hrows, hheld⟩ := Tabular.begin_ok h.2 hbegin
      exact ⟨hrows.trans h.1, _, hheld⟩
  | changing t changes =>
    cases changes with
    | nil => exact trivial
    | cons c r =>
      obtain ⟨hrows, l, hheld⟩ := h
      rw [step]
      rcases hexecute : Backend.execute db t c.statement c.params with ⟨e | n, t₁, db₁⟩
      · exact trivial
      · obtain ⟨hrows₁, hheld₁⟩ := Tabular.execute_ok hheld hexecute
        exact ⟨hrows₁.trans hrows, _, hheld₁⟩
  | finished outcome => exact trivial

/-- A replacement that is given up leaves the rows as they were. -/
theorem rows_of_abandoned {db db' : σ} {customer : String} {wanted : List ContextKey}
    {patience : Option Nat} (h : attempt db customer wanted patience = (none, db')) :
    Tabular.rows db' = Tabular.rows db := by
  obtain ⟨n, c, db₁, hsteps, hnot, rfl⟩ := abandoned_of_attempt h
  have hpending := Call.steps_keep (P := fun db' c' => c'.Pending db db') Call.pending_step n
    (c := .reading customer wanted) rfl
  rw [hsteps] at hpending
  -- at each step that is not the last the transaction is released, if one was begun
  cases c with
  | reading _ _ => exact hpending
  | opening _ => exact hpending.1
  | changing t _ => exact (Tabular.rows_release db₁ t).trans hpending.1
  | finished outcome => exact absurd rfl (hnot outcome)

/-- An attempt leaves the rows as they were or carries out its plan. -/
theorem rows_attempt (db : σ) (customer : String) (wanted : List ContextKey)
    (patience : Option Nat) :
    Tabular.rows (attempt db customer wanted patience).2 = Tabular.rows db ∨
      ∃ existing, Tabular.rows (attempt db customer wanted patience).2 =
        applied (plan existing wanted) (Tabular.rows db) := by
  rcases h : attempt db customer wanted patience with ⟨_ | outcome, db'⟩
  · exact .inl (rows_of_abandoned h)
  have hreplace := replace_of_attempt h
  rcases replaceContextKeys_cases (Registry.ofDatabase db) customer wanted with
    ⟨e, -, heq⟩ | ⟨existing, -, ⟨f, db₁, heq, hrows⟩ | ⟨db₁, heq, hrows, -⟩⟩
  · cases heq.symm.trans hreplace
    exact .inl rfl
  · cases heq.symm.trans hreplace
    exact .inl hrows
  · cases heq.symm.trans hreplace
    exact .inr ⟨existing, hrows⟩

end Rows

/-- Attempts one after the other, each of a customer realm with its wanted keys and its patience. -/
def attemptAll (db : σ) (calls : List (String × List ContextKey × Option Nat)) : σ :=
  calls.foldl (fun db call => (attempt db call.1 call.2.1 call.2.2).2) db

end Attempts

end RealmRegistry
