/-
A test of settings predicts all other commands that go by them.

Whatever command it is, its settings are acquired in the same way, and what comes of that is told by
the files alone (`Tree.Usable`).  Behind that stage a command may still fail, but for reasons of its
own (`Spares`).

* `acquires_iff` — when settings are acquired;
* `spares_carryOut` — no command fails on account of its settings once it has them;
* `test_predicts` — what is known of a command from a test of its settings.
-/
import RealmRegistry.Proofs.Command.Storage
import RealmRegistry.Proofs.Settings.Check

namespace RealmRegistry

open Schema Access Store

/-! ### Settings in files -/

namespace Tree

/-- The file of the settings that a path names. -/
def settingsAt? (t : Tree) (path : String) : Option String :=
  if Path.names path = Path.names Request.usualPath then Command.places.find? t.hasEntry
  else if t.hasEntry path then some path
  else none

/-- There is a file of settings with nothing against them but their log in production. -/
def Usable (t : Tree) (path : String) : Prop :=
  ∃ found text s, t.settingsAt? path = some found ∧ t.readText found = .ok text ∧
    fromToml Settings text = .ok s ∧ ∀ p ∈ s.problems, p.isOfProduction = true

theorem locate_error {t : Tree} {place : Place} {steps : List String} {e : FileFault}
    (h : t.locate place steps = .error e) : e.isThere = false := by
  induction steps generalizing place with
  | nil => cases h
  | cons step r ih =>
    rw [locate] at h
    cases hstep : t.stepFrom place step with
    | ok next =>
      rw [hstep] at h
      exact ih h
    | error e' =>
      rw [hstep] at h
      cases h
      rw [stepFrom] at hstep
      split at hstep
      · split at hstep
        · cases hstep
          rfl
        · cases hstep
      · cases hstep
        rfl
      · cases hstep
        rfl

/-- What cannot be looked up is not there. -/
theorem lookup_error {t : Tree} {path : String} {e : FileFault} (h : t.lookup path = .error e) :
    e.isThere = false := by
  rw [lookup] at h
  split at h
  next e' hplace =>
    cases h
    rw [placeOf] at hplace
    split at hplace
    next e'' hpath =>
      cases hplace
      rw [FileFault.ofPath?] at hpath
      split at hpath
      · cases hpath
        rfl
      split at hpath
      · cases hpath
        rfl
      split at hpath
      · cases hpath
        rfl
      · cases hpath
    · exact locate_error hplace
  · split at h
    · cases h
    · cases h
      rfl

theorem hasEntry_eq (t : Tree) (path : String) :
    t.hasEntry path = match t.readText path with
      | .ok _ => true
      | .error e => e.isThere := by
  rw [hasEntry, readText]
  cases h : t.lookup path with
  | error e => exact (lookup_error h).symm
  | ok e => rcases e with _ | (_ | _) | _ <;> rfl

end Tree

namespace Command

/-! ### Acquiring settings -/

section Rehearsed

variable {w w' : Rehearsal} {path : String}

theorem isThere_eq (path : String) (w : Rehearsal) :
    (isThere path : StateM Rehearsal Bool) w = (w.files.hasEntry path, w) := by
  have hread : (Host.readText path : StateM Rehearsal _) w = (w.files.readText path, w) := rfl
  rw [Tree.hasEntry_eq, isThere]
  dsimp only [bind, StateT.bind]
  rw [hread]
  cases w.files.readText path <;> rfl

theorem firstThere?_eq (paths : List String) (w : Rehearsal) :
    (firstThere? paths : StateM Rehearsal _) w = (paths.find? w.files.hasEntry, w) := by
  induction paths with
  | nil => rfl
  | cons path r ih =>
    rw [firstThere?, List.find?_cons]
    dsimp only [bind, StateT.bind]
    rw [isThere_eq]
    cases w.files.hasEntry path with
    | true => rfl
    | false => exact ih

/-- Settings are found if there is something where they are looked for. -/
theorem runAt_findSettings_eq_ok {found : String} :
    runAt (findSettings path) w = (.ok found, w') ↔
      w.files.settingsAt? path = some found ∧ w' = w := by
  have hthrown {texts : List String} {e : Failure} :
      runAt (do tell texts; throw e : ExceptT Failure (StateM Rehearsal) String) w ≠
        (.ok found, w') := by
    intro h
    obtain ⟨-, v, -, hthrow⟩ := runAt_bind_eq_ok.1 h
    cases hthrow
  have hpure {first : String} : runAt (pure first : ExceptT Failure (StateM Rehearsal) String) w =
      (.ok found, w') ↔ some first = some found ∧ w' = w := by
    constructor
    · intro h
      cases h
      exact ⟨rfl, rfl⟩
    · rintro ⟨⟨⟩, rfl⟩
      rfl
  rw [findSettings, Tree.settingsAt?]
  split
  · rw [runAt_bind, runAt_lift, firstThere?_eq]
    cases places.find? w.files.hasEntry with
    | some first => exact hpure
    | none => exact ⟨fun h => absurd h hthrown, fun h => absurd h.1 (Option.some_ne_none _).symm⟩
  · rw [runAt_bind, runAt_lift, isThere_eq]
    cases w.files.hasEntry path with
    | true => exact hpure
    | false => exact ⟨fun h => absurd h hthrown, fun h => absurd h.1 (Option.some_ne_none _).symm⟩

theorem readSettings_eq_ok {found : String} {s : Settings} :
    ((readSettings found : StateM Rehearsal _) w).1 = .ok s ↔
      ∃ text, w.files.readText found = .ok text ∧ fromToml Settings text = .ok s := by
  have hread : (Host.readText found : StateM Rehearsal _) w = (w.files.readText found, w) := rfl
  rw [readSettings]
  dsimp only [bind, StateT.bind]
  rw [hread]
  cases w.files.readText found with
  | ok text =>
    refine mapError_eq_ok.trans ⟨fun h => ⟨text, rfl, h⟩, ?_⟩
    rintro ⟨_, ⟨⟩, h⟩
    exact h
  | error e =>
    constructor
    · intro h
      cases e <;> cases h
    · rintro ⟨text, h, -⟩
      cases h

/-- Settings are loaded if their text is that of settings, and they will do. -/
theorem loads_iff {found : String} {s : Settings} :
    (∃ w', runAt (loadSettings found) w = (.ok s, w')) ↔
      (∃ text, w.files.readText found = .ok text ∧ fromToml Settings text = .ok s) ∧
        ∀ p ∈ s.problems, p.isOfProduction = true := by
  rw [← readSettings_eq_ok, ← Settings.accept_ok_iff, loadSettings]
  constructor
  -- Reading and accepting are the two steps that may fail; what is told between them may not.
  · rintro ⟨w', h⟩
    obtain ⟨outcome, v, hread, h⟩ := runAt_bind_eq_ok.1 h
    cases outcome with
    | error e =>
      obtain ⟨-, u, -, hthrow⟩ := runAt_bind_eq_ok.1 h
      cases hthrow
    | ok s' =>
      dsimp only at h
      cases haccept : s'.accept with
      | ok warnings =>
        rw [haccept] at h
        obtain ⟨-, u, -, hpure⟩ := runAt_bind_eq_ok.1 h
        cases hpure
        exact ⟨Except.ok.inj (congrArg Prod.fst hread), warnings, haccept⟩
      | error e =>
        rw [haccept] at h
        cases e with
        | invalid problems =>
          obtain ⟨-, u, -, hthrow⟩ := runAt_bind_eq_ok.1 h
          cases hthrow
        | _ => cases h
  · rintro ⟨hread, warnings, haccept⟩
    rw [runAt_bind, runAt_lift, hread]
    dsimp only
    rw [haccept]
    exact ⟨_, rfl⟩

/-- Whether settings are acquired is told by the files alone. -/
theorem acquires_iff :
    (∃ p w', runAt (acquire path) w = (.ok p, w')) ↔ w.files.Usable path := by
  constructor
  · rintro ⟨⟨found, s⟩, w', h⟩
    obtain ⟨first, v, hfind, h⟩ := runAt_bind_eq_ok.1 h
    obtain ⟨s', u, hload, hpure⟩ := runAt_bind_eq_ok.1 h
    obtain ⟨hfound, rfl⟩ := runAt_findSettings_eq_ok.1 hfind
    obtain ⟨⟨text, htext, hsettings⟩, hproblems⟩ := loads_iff.1 ⟨u, hload⟩
    exact ⟨first, text, s', hfound, htext, hsettings, hproblems⟩
  · rintro ⟨found, text, s, hfound, htext, hsettings, hproblems⟩
    obtain ⟨w', hload⟩ := loads_iff.2 ⟨⟨text, htext, hsettings⟩, hproblems⟩
    refine ⟨(found, s), w', runAt_bind_eq_ok.2 ⟨found, w, ?_, ?_⟩⟩
    · exact runAt_findSettings_eq_ok.2 ⟨hfound, rfl⟩
    · exact runAt_bind_eq_ok.2 ⟨s, w', hload, rfl⟩

end Rehearsed

/-! ### What a command may fail for -/

/-- Whether a failure is about settings: they are not found or not read, or they will not do. -/
def Failure.isAboutSettings : Failure → Bool
  | settings _ => true
  | underlying (.settings _) => true
  | noSuchSettings _ => true
  | noSettings => true
  | _ => false

section Failures

variable {S : Type}

/-- Whatever goes wrong at a step, it is not about settings. -/
def Spares {α : Type} (x : ExceptT Failure (StateM S) α) : Prop :=
  ∀ w e w', runAt x w = (.error e, w') → e.isAboutSettings = false

theorem spares_pure {α : Type} (a : α) :
    Spares (pure a : ExceptT Failure (StateM S) α) := by
  intro w e w' h
  cases h

theorem spares_lift {α : Type} (x : StateM S α) :
    Spares (ExceptT.lift x : ExceptT Failure (StateM S) α) := by
  intro w e w' h
  cases h

theorem spares_throw {α : Type} {e : Failure} (he : e.isAboutSettings = false) :
    Spares (throw e : ExceptT Failure (StateM S) α) := by
  intro w e' w' h
  cases h
  exact he

theorem spares_bind {α β : Type} {x : ExceptT Failure (StateM S) α}
    {f : α → ExceptT Failure (StateM S) β} (hx : Spares x) (hf : ∀ a, Spares (f a)) :
    Spares (x >>= f) := by
  intro w e w' h
  rcases runAt_bind_eq_error.1 h with h | ⟨a, v, -, h⟩
  · exact hx w e w' h
  · exact hf a v e w' h

theorem spares_attempt {ε α : Type} {f : ε → Failure} (hf : ∀ e, (f e).isAboutSettings = false)
    (x : StateM S (Except ε α)) : Spares (attempt f x) := by
  intro w e w' h
  have houtcome : (x w).1.mapError f = .error e := congrArg Prod.fst h
  cases hx : (x w).1 with
  | ok a =>
    rw [hx] at houtcome
    cases houtcome
  | error e' =>
    rw [hx] at houtcome
    cases houtcome
    exact hf e'

variable [Host (StateM S)]

theorem spares_openLog (s : Settings) :
    Spares (openLog s : ExceptT Failure (StateM S) Journal) := by
  have hrest : Spares (do
      let filter ← ExceptT.lift (do filterOf (s.filterLevel (← Host.logFilter)))
      return ⟨filter, !(s.observability.log.output == "file")⟩ :
        ExceptT Failure (StateM S) Journal) :=
    spares_bind (spares_lift _) fun _ => spares_pure _
  rw [openLog]
  dsimp only
  split
  · refine spares_bind (spares_bind (spares_attempt (fun _ => rfl) _) fun _ => ?_) fun _ => hrest
    split
    · exact spares_attempt (fun _ => rfl) _
    · exact spares_pure _
  · exact hrest

theorem spares_openRegistry (s : Settings) (j : Journal) :
    Spares (openRegistry s j : ExceptT Failure (StateM S) _) := by
  rw [openRegistry]
  split
  · refine spares_bind ?_ fun opened => spares_bind (spares_lift _) fun _ => spares_pure _
    exact spares_bind (spares_attempt (fun _ => rfl) _) fun _ =>
      spares_bind (spares_attempt (fun _ => rfl) _) fun _ =>
        spares_bind (spares_attempt (fun _ => rfl) _) fun _ =>
          spares_bind (spares_attempt (fun _ => rfl) _) fun _ => spares_pure _
  · exact spares_throw rfl

theorem spares_ask {α : Type} (j : Journal) (entries : Fault → List Log.Entry)
    (x : Except Fault α) : Spares (ask j entries x : ExceptT Failure (StateM S) α) := by
  cases x with
  | ok a => exact spares_pure a
  | error e => exact spares_bind (spares_lift _) fun _ => spares_throw rfl

theorem spares_asked {α : Type} (s : Settings) (j : Journal) (entries : Fault → List Log.Entry)
    (x : Registry Relational → Except Fault α) (document : α → Json) :
    Spares (asked s j entries x document : ExceptT Failure (StateM S) Json) :=
  spares_bind (spares_openRegistry s j) fun _ =>
    spares_bind (spares_ask j entries _) fun _ => spares_pure _

theorem spares_execute (c : Command) (s : Settings) (j : Journal) :
    Spares (c.execute s j : ExceptT Failure (StateM S) Json) := by
  cases c with
  | test _ => exact spares_throw rfl
  | listActions service => exact spares_pure _
  | getConfig realm => exact spares_asked s j _ (fun r => r.configuration realm) toJson
  | getAdminConfig realm => exact spares_asked s j _ (fun r => r.adminConfiguration realm) toJson
  | getConfigs realm =>
    exact spares_asked s j _ (fun r => r.configurations realm) fun p => bothDocument p.1 p.2
  | getContextKeys customer => exact spares_asked s j _ (fun r => r.contextKeys customer) toJson
  | setContextKeys customer path =>
    refine spares_bind (spares_openRegistry s j) fun _ => ?_
    refine spares_bind (spares_attempt (fun _ => rfl) _) fun _ => ?_
    refine spares_bind (spares_attempt (fun _ => rfl) _) fun _ => ?_
    refine spares_bind (spares_lift _) fun _ => ?_
    refine spares_bind (spares_ask j _ _) fun _ => ?_
    exact spares_bind (spares_lift _) fun _ => spares_pure _
  | listAuthorizations service apis =>
    exact spares_asked s j _ (fun r => (rescoped r service apis).authorizations) toJson

/-- A command that has its settings fails for other reasons, if it fails. -/
theorem spares_carryOut (c : Command) (found : String) (s : Settings) :
    Spares (c.carryOut found s : ExceptT Failure (StateM S) Json) := by
  refine spares_bind (spares_openLog s) fun j => spares_bind (spares_lift _) fun _ => ?_
  intro w e w' h
  rcases runAt_bind_eq_error.1 h with hlift | ⟨outcome, v, hlift, hrest⟩
  · cases hlift
  · cases outcome with
    | ok document => cases hrest
    | error e' =>
      -- what is recorded and thrown is what the command itself failed for
      have he := spares_execute c s j w e' v (runAt_caught.1 hlift)
      exact spares_bind (spares_lift _) (fun _ => spares_throw he) v e w' hrest

end Failures

/-! ### Command lines -/

section Lines

variable {l : Level} {s : Reading} {path : String}

theorem readArgument_plain (h : path.toList.head? ≠ some '-') :
    l.readArgument s path =
      match s.pending with
      | .waiting o => .ok { s with pending := .option o path }
      | _ => l.readOperand s path := by
  rw [Level.readArgument]
  split
  next htext => exact absurd (congrArg List.head? htext) h
  next htext => exact absurd (congrArg List.head? htext) h
  next o hwaiting _ _ => rw [hwaiting]
  next hnot =>
    split
    next o hwaiting => exact absurd hwaiting (hnot o)
    next => rfl

theorem ne_dashes (h : path.toList.head? ≠ some '-') : path ≠ "--" := by
  rintro rfl
  exact h (by decide +kernel)

theorem ofArguments_test (hpath : path ≠ "") (hdash : path.toList.head? ≠ some '-') :
    Request.ofArguments ["test", path] = .ok ⟨test (some path), Request.usualPath⟩ := by
  have hroot : Level.root.read .start ["test", path] = .ok (.start, some (.test, [path])) := by
    have hverb : Level.root.verb? .start "test" = some .test := by decide +kernel
    rw [Level.read, hverb]
  have hread : (Level.ofVerb .test).read .start [path] =
      .ok (⟨.none, .operand .path path⟩, none) := by
    have hargument : (Level.ofVerb .test).readArgument .start path =
        .ok ⟨.none, .operand .path path⟩ :=
      readArgument_plain hdash
    rw [Level.read, show (Level.ofVerb .test).verb? .start path = none from rfl,
      show (Level.ofVerb .test).asksForHelp .start path = false from rfl]
    simp only [ne_dashes hdash, hargument, Level.read]
    rfl
  have hsettle : Reading.settle ⟨.none, .operand .path path⟩ = .ok ⟨none, none, [], [path]⟩ := by
    show (readPath path).map _ = _
    rw [readPath, if_neg hpath]
    rfl
  have hgiven : (Level.ofVerb .test).readAll [path] = .ok ⟨none, none, [], [path]⟩ := by
    rw [Level.readAll, hread]
    simp only [ok_bind, hsettle]
    rfl
  rw [Request.ofArguments, hroot]
  simp only [ok_bind, hgiven]
  rfl

theorem ofArguments_settings (hpath : path ≠ "") (hdash : path.toList.head? ≠ some '-') {v : Verb}
    {rest : List String} {g : Given} (hrest : (Level.ofVerb v).readAll rest = .ok g)
    (hg : g.settings = none) :
    Request.ofArguments ("--config" :: path :: v.name :: rest) = .ok ⟨ofGiven v g, path⟩ := by
  have hverb : Verb.ofName? v.name = some v := by cases v <;> decide +kernel
  -- The option, its value and the verb are one step of the reading each.
  have hconfig : Level.root.read .start ("--config" :: path :: v.name :: rest) =
      Level.root.read ⟨.none, .waiting .settings⟩ (path :: v.name :: rest) := by
    have hargument : Level.root.readArgument .start "--config" =
        .ok ⟨.none, .waiting .settings⟩ := by decide +kernel
    rw [Level.read, show Level.root.verb? .start "--config" = none by decide +kernel,
      show Level.root.asksForHelp .start "--config" = false by decide +kernel, hargument]
    rfl
  have hvalue : Level.root.read ⟨.none, .waiting .settings⟩ (path :: v.name :: rest) =
      Level.root.read ⟨.none, .option .settings path⟩ (v.name :: rest) := by
    have hargument : Level.root.readArgument ⟨.none, .waiting .settings⟩ path =
        .ok ⟨.none, .option .settings path⟩ :=
      readArgument_plain hdash
    rw [Level.read, show Level.root.verb? ⟨.none, .waiting .settings⟩ path = none from rfl,
      show Level.root.asksForHelp ⟨.none, .waiting .settings⟩ path = false from rfl]
    simp only [ne_dashes hdash, hargument]
    rfl
  have hroot : Level.root.read .start ("--config" :: path :: v.name :: rest) =
      .ok (⟨.none, .option .settings path⟩, some (v, rest)) := by
    rw [hconfig, hvalue, Level.read,
      show Level.root.verb? ⟨.none, .option .settings path⟩ v.name = some v from hverb]
  have hsettle : Reading.settle ⟨.none, .option .settings path⟩ =
      .ok ⟨some path, none, [], []⟩ := by
    show (readPath path).map _ = _
    rw [readPath, if_neg hpath]
    rfl
  rw [Request.ofArguments, hroot]
  simp only [ok_bind, hrest, hsettle, hg]
  rfl

end Lines

/-! ### Predictions -/

/-- What comes of a command that answers with a document. -/
def Outcome.ofDocument : Except Failure Json → Outcome
  | .ok v => .answered (.document v)
  | .error e => .failed e

/-- What is known of a command line from a test of the settings that it goes by. -/
structure Predicts (w : Rehearsal) (testArgs args : List String) (r : Request) : Prop where
  /-- the test succeeds if the settings will do; -/
  succeeds_iff : (runFrom testArgs w).1.exitCode = 0 ↔ w.files.Usable r.settingsPath
  acquires_iff : (runFrom testArgs w).1.exitCode = 0 ↔
    ∃ p w', runAt (acquire r.settingsPath) w = (.ok p, w')
  /-- if it fails, the command line fails for the same reason and no row changes; -/
  fails : (runFrom testArgs w).1.exitCode ≠ 0 → ∃ e, (runFrom testArgs w).1 = .failed e ∧
    (runFrom args w).1 = .failed e ∧ w.files.SameRows (runFrom args w).2.files
  /-- if it succeeds, the command is carried out by settings that were acquired, -/
  proceeds : (runFrom testArgs w).1.exitCode = 0 →
    ∃ found s u, runAt (acquire r.settingsPath) w = (.ok (found, s), u) ∧
      (runFrom args w).1 = .ofDocument (runAt (r.command.carryOut found s) u).1
  /-- and does not fail on account of them. -/
  spares : (runFrom testArgs w).1.exitCode = 0 →
    ∀ e, (runFrom args w).1 = .failed e → e.isAboutSettings = false

section Runs

variable {w : Rehearsal} {testArgs args : List String} {t r : Request}

theorem testSettings_of_acquired {path found : String} {s : Settings} {w' : Rehearsal}
    (h : runAt (acquire path) w = (.ok (found, s), w')) :
    ∃ v, runAt (testSettings path) w = (.ok s, v) := by
  obtain ⟨first, u, hfind, h⟩ := runAt_bind_eq_ok.1 h
  obtain ⟨s', v, hload, hpure⟩ := runAt_bind_eq_ok.1 h
  cases hpure
  have hshow := runAt_lift (ε := Failure)
    (Host.display (Journal.accepted found s) : StateM Rehearsal Unit) w'
  exact ⟨_, runAt_bind_eq_ok.2 ⟨found, u, hfind, runAt_bind_eq_ok.2 ⟨.ok s, w',
    runAt_caught.2 hload, runAt_bind_eq_ok.2 ⟨(), _, hshow, rfl⟩⟩⟩⟩

theorem exitCode_of_acquired (htest : Request.ofArguments testArgs = .ok t)
    (ht : t.command.verb = .test) {p : String × Settings} {w' : Rehearsal}
    (h : runAt (acquire (source t)) w = (.ok p, w')) : (runFrom testArgs w).1.exitCode = 0 := by
  obtain ⟨c, usual⟩ := t
  cases c with
  | test named =>
    obtain ⟨v, hv⟩ := testSettings_of_acquired h
    have hserve : runAt (serve ⟨test named, usual⟩) w = (.ok (.accepted p.2), v) :=
      runAt_bind_eq_ok.2 ⟨p.2, v, hv, rfl⟩
    rw [runFrom_of_request htest, hserve]
    rfl
  | _ => cases ht

theorem outcome_of_acquired (hargs : Request.ofArguments args = .ok r)
    (hr : r.command.verb ≠ .test) {found : String} {s : Settings} {u : Rehearsal}
    (h : runAt (acquire r.settingsPath) w = (.ok (found, s), u)) :
    (runFrom args w).1 = .ofDocument (runAt (r.command.carryOut found s) u).1 := by
  rw [runFrom_of_request hargs, serve_of_ne_test hr, perform_eq, runAt_bind, runAt_bind, h]
  dsimp only
  rcases runAt (r.command.carryOut found s) u with ⟨e | v, u'⟩ <;> rfl

theorem predicts (htest : Request.ofArguments testArgs = .ok t) (ht : t.command.verb = .test)
    (hargs : Request.ofArguments args = .ok r) (hr : r.command.verb ≠ .test)
    (hsource : source t = r.settingsPath) (w : Rehearsal) : Predicts w testArgs args r := by
  rcases hacquire : runAt (acquire r.settingsPath) w with ⟨e | ⟨found, s⟩, u⟩
  · -- both fail for want of settings
    have hnone : ¬ ∃ p w', runAt (acquire r.settingsPath) w = (.ok p, w') := by
      rintro ⟨p, w', h⟩
      cases hacquire.symm.trans h
    have hquiet := Rehearsal.steady.toQuiet
    obtain ⟨hfails, -⟩ := same_runFrom_of_unsettled hquiet htest (hsource ▸ hacquire)
    obtain ⟨hfails', hsame⟩ :=
      same_runFrom_of_unsettled hquiet hargs ((source_of_ne_test hr).symm ▸ hacquire)
    have hcode : (runFrom testArgs w).1.exitCode ≠ 0 := by
      rw [hfails]
      exact Nat.one_ne_zero
    exact
      { succeeds_iff := ⟨fun h => absurd h hcode, fun h => absurd (acquires_iff.2 h) hnone⟩
        acquires_iff := ⟨fun h => absurd h hcode, fun h => absurd h hnone⟩
        fails := fun _ => ⟨e, hfails, hfails', hsame⟩
        proceeds := fun h => absurd h hcode
        spares := fun h => absurd h hcode }
  · have hcode := exitCode_of_acquired htest ht (hsource ▸ hacquire)
    have houtcome := outcome_of_acquired hargs hr hacquire
    refine
      { succeeds_iff := ⟨fun _ => acquires_iff.1 ⟨_, u, hacquire⟩, fun _ => hcode⟩
        acquires_iff := ⟨fun _ => ⟨_, u, hacquire⟩, fun _ => hcode⟩
        fails := fun h => absurd hcode h
        proceeds := fun _ => ⟨found, s, u, hacquire, houtcome⟩
        spares := fun _ e he => ?_ }
    rcases hcarry : runAt (r.command.carryOut found s) u with ⟨e' | v, u'⟩
    · rw [houtcome, hcarry] at he
      obtain rfl : e' = e := Outcome.failed.inj he
      exact spares_carryOut r.command found s u e' u' hcarry
    · rw [houtcome, hcarry] at he
      cases he

end Runs

/-- A test of settings predicts every other command that goes by them, however the two command lines
name the file; and so does `test F` for a command that is given `--config F`. -/
theorem test_predicts :
    (∀ (w : Rehearsal) (testArgs args : List String) (t r : Request),
      Request.ofArguments testArgs = .ok t → t.command.verb = .test →
      Request.ofArguments args = .ok r → r.command.verb ≠ .test →
      source t = r.settingsPath → Predicts w testArgs args r) ∧
    ∀ (w : Rehearsal) (path : String) (v : Verb) (rest : List String) (g : Given),
      path ≠ "" → path.toList.head? ≠ some '-' → v ≠ .test →
      (Level.ofVerb v).readAll rest = .ok g → g.settings = none →
      Predicts w ["test", path] ("--config" :: path :: v.name :: rest) ⟨ofGiven v g, path⟩ := by
  refine ⟨fun w testArgs args t r htest ht hargs hr hsource =>
    predicts htest ht hargs hr hsource w, fun w path v rest g hpath hdash hv hrest hg => ?_⟩
  have hverb : (ofGiven v g).verb ≠ .test := by
    cases v with
    | test => exact absurd rfl hv
    | _ => exact Verb.noConfusion
  exact predicts (ofArguments_test hpath hdash) rfl (ofArguments_settings hpath hdash hrest hg)
    hverb rfl w

/-- Settings whose log is not one for production. -/
def loggedToConsole : Rehearsal where
  files := Tree.empty.put ["prod.toml"]
    (.file (some "name = \"x\"\nenv = \"prod\"\nsqlite_path = \"data\"\n"))
  remarks := []

/-- Settings in production are passed by the test and by the command, warnings and all; settings for
an environment that there is not are refused by both. -/
theorem test_predicts_production :
    ((runFrom ["test", "prod.toml"] loggedToConsole).1.exitCode = 0 ∧
      loggedToConsole.files.Usable "prod.toml" ∧
      ∀ e, (runFrom ["--config", "prod.toml", "get-config", "acme"] loggedToConsole).1 =
        .failed e → e.isAboutSettings = false) ∧
    ∃ e, (runFrom ["test"] unfitSettings).1 = .failed e ∧
      (runFrom ["get-context-keys", "acme"] unfitSettings).1 = .failed e := by
  constructor
  · have hcode : (runFrom ["test", "prod.toml"] loggedToConsole).1.exitCode = 0 := by
      decide +kernel
    have hgiven : (Level.ofVerb .getConfig).readAll ["acme"] = .ok ⟨none, none, [], ["acme"]⟩ := by
      rfl
    have hpredicts := test_predicts.2 loggedToConsole "prod.toml" .getConfig ["acme"] _
      (by decide +kernel) (by decide +kernel) (by decide) hgiven rfl
    exact ⟨hcode, hpredicts.succeeds_iff.1 hcode, hpredicts.spares hcode⟩
  · have hcode : (runFrom ["test"] unfitSettings).1.exitCode ≠ 0 := by decide +kernel
    have hpredicts := test_predicts.1 unfitSettings ["test"] ["get-context-keys", "acme"]
      ⟨test none, "config.toml"⟩ ⟨getContextKeys "acme", "config.toml"⟩ rfl rfl rfl
      Verb.noConfusion rfl
    obtain ⟨e, htest, hargs, -⟩ := hpredicts.fails hcode
    exact ⟨e, htest, hargs⟩

end Command

end RealmRegistry
