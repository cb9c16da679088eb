/-
The stages of a run, and what it takes that they succeed.

A request other than a test of settings is carried out in two stages: the settings are acquired, and
the command is carried out by them.

* `runAt_bind_eq_ok`, `runAt_bind_eq_error` — steps one after the other;
* `perform_eq` — the stages of a command;
* `runAt_carryOut_eq_ok` — the second stage succeeds if a log can be opened and the command
  executed;
* `document_of_answered` — a request that succeeds went through both stages;
* `runFrom_cases` — what can come of a command line.
-/
import RealmRegistry.Command.Run

namespace RealmRegistry.Command

open Schema Access Store

/-! ### Steps -/

section Steps

variable {S ε α β : Type}

/-- What comes of steps that may fail. -/
def runAt (x : ExceptT ε (StateM S) α) (w : S) : Except ε α × S := x.run w

theorem runAt_bind (x : ExceptT ε (StateM S) α) (f : α → ExceptT ε (StateM S) β) (w : S) :
    runAt (x >>= f) w =
      match runAt x w with
      | (.ok a, v) => runAt (f a) v
      | (.error e, v) => (.error e, v) := by
  show (ExceptT.bindCont f (runAt x w).1) (runAt x w).2 = _
  rcases runAt x w with ⟨_ | _, v⟩ <;> rfl

theorem runAt_bind_eq_ok {x : ExceptT ε (StateM S) α} {f : α → ExceptT ε (StateM S) β}
    {w w' : S} {b : β} : runAt (x >>= f) w = (.ok b, w') ↔
      ∃ a v, runAt x w = (.ok a, v) ∧ runAt (f a) v = (.ok b, w') := by
  rw [runAt_bind]
  rcases runAt x w with ⟨e | a, v⟩
  · constructor
    · intro h
      cases h
    · rintro ⟨a, v', h, -⟩
      cases h
  · constructor
    · intro h
      exact ⟨a, v, rfl, h⟩
    · rintro ⟨_, _, h, hf⟩
      cases h
      exact hf

theorem runAt_bind_eq_error {x : ExceptT ε (StateM S) α} {f : α → ExceptT ε (StateM S) β}
    {w w' : S} {e : ε} : runAt (x >>= f) w = (.error e, w') ↔
      runAt x w = (.error e, w') ∨
        ∃ a v, runAt x w = (.ok a, v) ∧ runAt (f a) v = (.error e, w') := by
  rw [runAt_bind]
  rcases runAt x w with ⟨e' | a, v⟩
  · constructor
    · intro h
      cases h
      exact .inl rfl
    · rintro (h | ⟨a, v', h, -⟩)
      · cases h
        rfl
      · cases h
  · constructor
    · intro h
      exact .inr ⟨a, v, rfl, h⟩
    · rintro (h | ⟨_, _, h, hf⟩)
      · cases h
      · cases h
        exact hf

theorem runAt_lift (x : StateM S α) (w : S) :
    runAt (ExceptT.lift x : ExceptT ε (StateM S) α) w = (.ok (x w).1, (x w).2) :=
  rfl

theorem runAt_lift_eq_ok {x : StateM S α} {w w' : S} {a : α} :
    runAt (ExceptT.lift x : ExceptT ε (StateM S) α) w = (.ok a, w') ↔ x w = (a, w') := by
  rw [runAt_lift]
  constructor
  · intro h
    cases h
    rfl
  · intro h
    rw [h]

/-- What is caught of steps that may fail. -/
theorem runAt_caught {x : ExceptT ε (StateM S) α} {w w' : S} {outcome : Except ε α} :
    runAt (ExceptT.lift x.run : ExceptT ε (StateM S) _) w = (.ok outcome, w') ↔
      runAt x w = (outcome, w') :=
  runAt_lift_eq_ok

end Steps

/-! ### Settings -/

section Stages

variable {S : Type} [Host (StateM S)] {w w' : S}

/-- Finds settings, and reads and checks them. -/
def acquire (path : String) : ExceptT Failure (StateM S) (String × Settings) := do
  let found ← findSettings path
  let s ← loadSettings found
  return (found, s)

/-- Settings that cannot be acquired fail a test in the same way. -/
theorem testSettings_of_unsettled {path : String} {e : Failure}
    (hfails : runAt (acquire path) w = (.error e, w')) :
    ∃ v, runAt (testSettings path) w = (.error e, v) := by
  rcases runAt_bind_eq_error.1 hfails with hfind | ⟨found, u, hfind, hrest⟩
  · exact ⟨w', runAt_bind_eq_error.2 (.inl hfind)⟩
  · rcases runAt_bind_eq_error.1 hrest with hload | ⟨s, u', -, hpure⟩
    · -- the test says so before it fails
      refine ⟨((Host.display (Journal.rejected e) : StateM S Unit) w').2, ?_⟩
      refine runAt_bind_eq_error.2 (.inr ⟨found, u, hfind, ?_⟩)
      exact runAt_bind_eq_error.2 (.inr ⟨.error e, w', runAt_caught.2 hload, rfl⟩)
    · cases hpure

/-! ### Commands -/

/-- Carries out a command by settings that were found. -/
def carryOut (c : Command) (found : String) (s : Settings) :
    ExceptT Failure (StateM S) Json := do
  let j ← openLog s
  ExceptT.lift (record j (Journal.started found s))
  match ← ExceptT.lift (c.execute s j).run with
  | .ok v => return v
  | .error e =>
    ExceptT.lift (record j (Journal.failed e))
    throw e

theorem perform_eq (c : Command) (path : String) :
    (c.perform path : ExceptT Failure (StateM S) Json) =
      acquire path >>= fun p => c.carryOut p.1 p.2 := by
  simp only [acquire, bind_assoc, pure_bind]
  rfl

/-- A command is carried out if its log can be opened and it can be executed. -/
theorem runAt_carryOut_eq_ok {c : Command} {found : String} {s : Settings} {v : Json} :
    runAt (c.carryOut found s) w = (.ok v, w') ↔
      ∃ j u, runAt (openLog s) w = (.ok j, u) ∧
        runAt (c.execute s j) ((record j (Journal.started found s) : StateM S Unit) u).2 =
          (.ok v, w') := by
  constructor
  · intro h
    obtain ⟨j, u, hlog, h⟩ := runAt_bind_eq_ok.1 h
    obtain ⟨_, u', hrecord, h⟩ := runAt_bind_eq_ok.1 h
    obtain ⟨outcome, u'', hexecute, h⟩ := runAt_bind_eq_ok.1 h
    refine ⟨j, u, hlog, ?_⟩
    cases hrecord
    cases outcome with
    | ok document =>
      cases h
      exact runAt_caught.1 hexecute
    | error e =>
      obtain ⟨_, _, _, hthrow⟩ := runAt_bind_eq_ok.1 h
      cases hthrow
  · rintro ⟨j, u, hlog, hexecute⟩
    refine runAt_bind_eq_ok.2 ⟨j, u, hlog, runAt_bind_eq_ok.2 ⟨(), _, rfl, ?_⟩⟩
    exact runAt_bind_eq_ok.2 ⟨.ok v, w', runAt_caught.2 hexecute, rfl⟩

/-- A registry that is open has the database and the scope that the settings describe. -/
theorem opened_of_openRegistry {s : Settings} {j : Journal} {location : Location}
    {r : Registry Relational} (h : runAt (openRegistry s j) w = (.ok (location, r), w')) :
    (∃ v, runAt (openDatabase s) w = (.ok (location, r.database), v)) ∧
      r.scope = s.scope Catalog.standard := by
  rw [openRegistry] at h
  split at h
  · obtain ⟨⟨location', d⟩, v, hopen, h⟩ := runAt_bind_eq_ok.1 h
    obtain ⟨-, v', -, h⟩ := runAt_bind_eq_ok.1 h
    cases h
    exact ⟨⟨v, hopen⟩, rfl⟩
  · cases h

/-- What was asked for was there if there was no failure. -/
theorem ok_of_ask {α : Type} {j : Journal} {entries : Fault → List Log.Entry} {x : Except Fault α}
    {a : α} (h : runAt (ask j entries x) w = (.ok a, w')) : x = .ok a := by
  cases x with
  | ok b =>
    cases h
    rfl
  | error e =>
    obtain ⟨_, _, _, hthrow⟩ := runAt_bind_eq_ok.1 h
    cases hthrow

/-- Opens the registry, and answers with a document of what it is asked for. -/
def asked {α : Type} (s : Settings) (j : Journal) (entries : Fault → List Log.Entry)
    (x : Registry Relational → Except Fault α) (document : α → Json) :
    ExceptT Failure (StateM S) Json := do
  let opened ← openRegistry s j
  return document (← ask j entries (x opened.2))

/-- A document is answered with of what the registry that is open had. -/
theorem ok_of_asked {α : Type} {s : Settings} {j : Journal} {entries : Fault → List Log.Entry}
    {x : Registry Relational → Except Fault α} {document : α → Json} {v : Json}
    (h : runAt (asked s j entries x document) w = (.ok v, w')) :
    ∃ location r u a, runAt (openRegistry s j) w = (.ok (location, r), u) ∧ x r = .ok a ∧
      v = document a := by
  obtain ⟨⟨location, r⟩, u, hopen, h⟩ := runAt_bind_eq_ok.1 h
  obtain ⟨a, u', hask, h⟩ := runAt_bind_eq_ok.1 h
  cases h
  exact ⟨location, r, u, a, hopen, ok_of_ask hask, rfl⟩

/-! ### Requests -/

/-- The file of settings that a request reads. -/
def source (r : Request) : String :=
  match r.command with
  | .test path => path.getD r.settingsPath
  | _ => r.settingsPath

/-- A request answers with the document of its command, unless it is a test of settings. -/
theorem serve_of_ne_test {r : Request} (hr : r.command.verb ≠ .test) :
    (serve r : ExceptT Failure (StateM S) Answer) =
      r.command.perform r.settingsPath >>= fun v => pure (.document v) := by
  obtain ⟨c, path⟩ := r
  cases c with
  | test _ => exact absurd rfl hr
  | _ => rfl

theorem source_of_ne_test {r : Request} (hr : r.command.verb ≠ .test) :
    source r = r.settingsPath := by
  obtain ⟨c, path⟩ := r
  cases c with
  | test _ => exact absurd rfl hr
  | _ => rfl

/-- A request that succeeds has acquired settings and carried out its command by them, unless it is
a test of settings. -/
theorem document_of_answered {r : Request} {a : Answer} (hr : r.command.verb ≠ .test)
    (h : runAt (serve r) w = (.ok a, w')) :
    ∃ found s u v, runAt (acquire r.settingsPath) w = (.ok (found, s), u) ∧
      runAt (r.command.carryOut found s) u = (.ok v, w') ∧ a = .document v := by
  rw [serve_of_ne_test hr, perform_eq] at h
  obtain ⟨v, u, h, hpure⟩ := runAt_bind_eq_ok.1 h
  obtain ⟨⟨found, s⟩, u', hacquire, hcarry⟩ := runAt_bind_eq_ok.1 h
  cases hpure
  exact ⟨found, s, u', v, hacquire, hcarry, rfl⟩

/-- What comes of a command line, and the surroundings after it. -/
def runFrom (args : List String) (w : S) : Outcome × S := (run args : StateM S Outcome) w

theorem runFrom_of_request {args : List String} {r : Request}
    (hargs : Request.ofArguments args = .ok r) (w : S) :
    runFrom args w =
      match runAt (serve r) w with
      | (.ok a, v) => (.answered a, v)
      | (.error e, v) => (.failed e, v) := by
  rcases hserve : runAt (serve r) w with ⟨_ | _, v⟩
  all_goals
    rw [runFrom, run, hargs]
    dsimp only [bind, StateT.bind]
    rw [show (serve r : ExceptT Failure (StateM S) Answer).run w = _ from hserve]
    rfl

/-- A command line is none of a request and does nothing, or its request fails or is answered. -/
theorem runFrom_cases (args : List String) (w : S) :
    (∃ u, Request.ofArguments args = .error u ∧ runFrom args w = (.usage u, w)) ∨
    ∃ r, Request.ofArguments args = .ok r ∧
      ((∃ e v, runAt (serve r) w = (.error e, v) ∧ runFrom args w = (.failed e, v)) ∨
        ∃ a v, runAt (serve r) w = (.ok a, v) ∧ runFrom args w = (.answered a, v)) := by
  cases hargs : Request.ofArguments args with
  | error u =>
    refine .inl ⟨u, rfl, ?_⟩
    rw [runFrom, run, hargs]
    rfl
  | ok r =>
    refine .inr ⟨r, rfl, ?_⟩
    rw [runFrom_of_request hargs]
    rcases hserve : runAt (serve r) w with ⟨e | a, v⟩
    · exact .inl ⟨e, v, rfl, rfl⟩
    · exact .inr ⟨a, v, rfl, rfl⟩

/-- A request that comes to no fault has been answered. -/
theorem answered_of_exitCode {args : List String} {r : Request}
    (hargs : Request.ofArguments args = .ok r) (hcode : (runFrom args w).1.exitCode = 0) :
    ∃ a w', runFrom args w = (.answered a, w') ∧ runAt (serve r) w = (.ok a, w') := by
  rcases runFrom_cases args w with
    ⟨u, hargs', -⟩ | ⟨r', hargs', ⟨e, v, -, hrun⟩ | ⟨a, v, hserve, hrun⟩⟩
  · cases hargs.symm.trans hargs'
  · rw [hrun] at hcode
    cases hcode
  · cases hargs.symm.trans hargs'
    exact ⟨a, v, hrun, hserve⟩

end Stages

end RealmRegistry.Command
