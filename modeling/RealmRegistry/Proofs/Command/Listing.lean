/-
What is printed of a command line that lists authorizations.

The list goes through two filters of its own: the groups of actions that the command line or the
settings name are looked up in the catalog, and the names that were found there are the scope of the
rows.  Together they keep exactly the authorizations whose action is in one of the groups.

* `listed_of_answered` — what a run lists, and of which rows;
* `authorizations_listed` — the same for command lines, compared with each other.
-/
import RealmRegistry.Command.Rehearsal
import RealmRegistry.Proofs.Access.Groups
import RealmRegistry.Proofs.Command.Options
import RealmRegistry.Proofs.Command.Stages
import RealmRegistry.Proofs.Registry.Authorizations
import RealmRegistry.Settings.Check

namespace RealmRegistry

open Schema Access Store

namespace Command

/-! ### Databases -/

section Runs

variable {S : Type} [Host (StateM S)] {w w' : S} {path : String} {s s' : Settings}
  {d d' : Relational}

/-- A command goes by these settings and finds this database open. -/
def Opens (path : String) (w : S) (s : Settings) (d : Relational) : Prop :=
  ∃ found j location u v v', runAt (acquire path) w = (.ok (found, s), u) ∧
    runAt (openLog s) u = (.ok j, v) ∧
    runAt (openDatabase s) ((record j (Journal.started found s) : StateM S Unit) v).2 =
      (.ok (location, d), v')

theorem Opens.unique (h : Opens path w s d) (h' : Opens path w s' d') : s' = s ∧ d' = d := by
  obtain ⟨found, j, location, u, v, v', hacquire, hlog, hopen⟩ := h
  obtain ⟨_, _, _, _, _, _, hacquire', hlog', hopen'⟩ := h'
  cases hacquire.symm.trans hacquire'
  cases hlog.symm.trans hlog'
  cases hopen.symm.trans hopen'
  exact ⟨rfl, rfl⟩

omit [Host (StateM S)] in
/-- A database that lists authorizations has a connection, and lists what it has rows of. -/
theorem query_of_authorizations {l : List Authorization}
    (h : (Registry.ofDatabase d).authorizations = .ok l) :
    Backend.query d .selectAllAuthorizations [] = d.tables.query .selectAllAuthorizations [] := by
  show d.query .selectAllAuthorizations [] = _
  rw [Relational.query]
  cases htake : d.take with
  | ok _ => rfl
  | error e =>
    have hquery : Backend.query d .selectAllAuthorizations [] = [.error (.ofDriver e)] := by
      show d.query .selectAllAuthorizations [] = _
      rw [Relational.query, htake]
    rw [Registry.authorizations, show (Registry.ofDatabase d).database = d from rfl, hquery] at h
    cases h

/-- Databases with the same rows list the same authorizations. -/
theorem authorizations_of_rows_eq {l l' : List Authorization}
    (hrows : d'.tables.rows .authorizations = d.tables.rows .authorizations)
    (h : (Registry.ofDatabase d).authorizations = .ok l)
    (h' : (Registry.ofDatabase d').authorizations = .ok l') : l' = l := by
  have hquery : d'.tables.query .selectAllAuthorizations [] =
      d.tables.query .selectAllAuthorizations [] := by
    simp only [Tables.query, Tables.selection?, Tables.rowsOf, hrows]
  refine Except.ok.inj (h'.symm.trans (Eq.trans ?_ h))
  rw [Registry.authorizations, Registry.authorizations]
  show readKept _ _ (Backend.query d' _ _) = readKept _ _ (Backend.query d _ _)
  rw [query_of_authorizations h, query_of_authorizations h', hquery]
  rfl

/-! ### Runs -/

/-- The groups of actions that a list is restricted to: those of the settings, unless a service is
given. -/
def groupsFor (service : Option Service) (apis : List Api) (s : Settings) : List ActionGroup :=
  match service with
  | some service => [⟨service, apis⟩]
  | none => s.authorization.scopes

/-- The authorizations of which an action is shown by some groups. -/
def shown (groups : List ActionGroup) (l : List Authorization) : List Authorization :=
  l.filter fun a => decide (Catalog.standard.Shows groups a.action)

theorem authorizations_rescoped {r : Registry Relational} (hscope : r.scope = s.scope Catalog.standard)
    (service : Option Service) (apis : List Api) :
    (rescoped r service apis).authorizations =
      (Registry.ofDatabase r.database).authorizations.map (shown (groupsFor service apis s)) := by
  have heq : rescoped r service apis =
      ⟨r.database, Catalog.standard.scopeFor (groupsFor service apis s)⟩ := by
    obtain ⟨d, scope⟩ := r
    cases service with
    | none => exact congrArg (Registry.mk d) hscope
    | some service => rfl
  rw [heq, authorizations_eq_map]
  simp only [allows_scopeFor]
  rfl

/-- A request for authorizations that succeeds lists those of its database that its groups show. -/
theorem listed_of_answered {service : Option Service} {apis : List Api} {a : Answer}
    (h : runAt (serve ⟨listAuthorizations service apis, path⟩) w = (.ok a, w')) :
    ∃ s d all, Opens path w s d ∧ (Registry.ofDatabase d).authorizations = .ok all ∧
      a = .document (toJson (shown (groupsFor service apis s) all)) := by
  obtain ⟨found, s, u, document, hacquire, hcarry, rfl⟩ :=
    document_of_answered (r := ⟨listAuthorizations service apis, path⟩) nofun h
  obtain ⟨j, v, hlog, hexecute⟩ := runAt_carryOut_eq_ok.1 hcarry
  obtain ⟨location, r, v', l, hopen, hl, rfl⟩ :=
    ok_of_asked (x := fun r => (rescoped r service apis).authorizations) hexecute
  obtain ⟨⟨_, hdatabase⟩, hscope⟩ := opened_of_openRegistry hopen
  rw [authorizations_rescoped hscope] at hl
  obtain ⟨all, hall, rfl⟩ := map_eq_ok.1 hl
  exact ⟨s, r.database, all, ⟨found, j, location, u, v, _, hacquire, hlog, hdatabase⟩, hall, rfl⟩

/-- A request for the actions of a service lists them. -/
theorem actions_of_answered {service : Service} {a : Answer}
    (h : runAt (serve ⟨listActions (some service), path⟩) w = (.ok a, w')) :
    a = .document (toJson (Catalog.standard.forService service)) := by
  obtain ⟨found, s, u, document, -, hcarry, rfl⟩ :=
    document_of_answered (r := ⟨listActions (some service), path⟩) nofun h
  obtain ⟨j, v, -, hexecute⟩ := runAt_carryOut_eq_ok.1 hcarry
  cases hexecute
  rfl

end Runs

/-! ### Command lines -/

/-- What is printed of a list. -/
def printed {α : Type} [Shaped α] (l : List α) : String := (toJson l).pretty ++ "\n"

@[simp] theorem shown_nil (l : List Authorization) : shown [] l = l :=
  List.filter_eq_self.2 fun _ _ => decide_eq_true (.inl rfl)

theorem shown_group (g : ActionGroup) (l : List Authorization) :
    shown [g] l = l.filter fun a => decide (Catalog.standard.InGroup g a.action) := by
  rw [shown]
  simp

section Lines

variable {S : Type} [Host (StateM S)] {args : List String} {path : String} {w : S}

theorem listed_of_run {service : Option Service} {apis : List Api}
    (hargs : Request.ofArguments args = .ok ⟨listAuthorizations service apis, path⟩)
    (hcode : (runFrom args w).1.exitCode = 0) :
    ∃ s d all, Opens path w s d ∧ (Registry.ofDatabase d).authorizations = .ok all ∧
      (runFrom args w).1.output = printed (shown (groupsFor service apis s) all) := by
  obtain ⟨a, w', hrun, hserve⟩ := answered_of_exitCode hargs hcode
  obtain ⟨s, d, all, hopens, hall, rfl⟩ := listed_of_answered hserve
  exact ⟨s, d, all, hopens, hall, by rw [hrun]; rfl⟩

end Lines

/-- What a command line with these options prints, if it goes by the settings `s` and the database
`d`, of which `all` authorizations are. -/
structure Lists (service : Option Service) (apis : List Api) (s : Settings) (d : Relational)
    (all : List Authorization) (text : String) : Prop where
  /-- Nothing of the database is missing in `all`. -/
  whole : (Registry.ofDatabase d).authorizations = .ok all
  /-- Any command line without options prints `all`, whatever its surroundings, if it finds the same
  rows and its settings name no groups. -/
  unrestricted : ∀ {S : Type} [Host (StateM S)] (args : List String) (path : String) (w : S)
    (s' : Settings) (d' : Relational),
    Request.ofArguments args = .ok ⟨listAuthorizations none [], path⟩ →
    (runFrom args w).1.exitCode = 0 → Opens path w s' d' → s'.authorization.scopes = [] →
    d'.tables.rows .authorizations = d.tables.rows .authorizations →
    (runFrom args w).1.output = printed all
  /-- A service takes the place of the groups of the settings: those are printed of `all` whose
  action is one of the service, and of one of the APIs if any is given. -/
  ofService : ∀ service', service = some service' →
    text = printed (all.filter fun a => decide (∃ x ∈ Catalog.standard.actions,
      x.name = a.action ∧ x.service = service' ∧ (apis = [] ∨ x.api ∈ apis)))
  /-- Without a service those are printed that are in the scope of the settings. -/
  ofSettings : service = none →
    text = printed (all.filter fun a => (s.scope Catalog.standard).allows a.action)
  /-- The actions of a service are those that any command line prints that lists its actions. -/
  ofCatalog : ∀ service', service = some service' → apis = [] →
    ∀ {S : Type} [Host (StateM S)] (args : List String) (path : String) (w : S),
      Request.ofArguments args = .ok ⟨listActions (some service'), path⟩ →
      (runFrom args w).1.exitCode = 0 →
      ∃ actions : List Action, (runFrom args w).1.output = printed actions ∧
        text = printed (all.filter fun a => decide (a.action ∈ actions.map Action.name))
  /-- Of a service without actions nothing is printed. -/
  ofIdle : ∀ service', service = some service' →
    (∀ x ∈ Catalog.standard.actions, x.service ≠ service') → text = "[]\n"

/-- A command line that lists authorizations drops none of its options, has a service if it has an
API, and prints what it should. -/
theorem authorizations_listed {args : List String} {service : Option Service} {apis : List Api}
    {path : String}
    (hargs : Request.ofArguments args = .ok ⟨listAuthorizations service apis, path⟩) :
    (apis.map Api.name = named .api args ∧ service.toList.map Service.name = named .service args ∧
      (named .api args ≠ [] → service ≠ none)) ∧
    ∀ {S : Type} [Host (StateM S)] (w : S), (runFrom args w).1.exitCode = 0 →
      ∃ s d all, Opens path w s d ∧ Lists service apis s d all (runFrom args w).1.output := by
  obtain ⟨hservice, hapis, hneeds⟩ := values_of_listAuthorizations hargs
  refine ⟨⟨hapis, hservice, fun hne => hneeds fun hnil => hne ?_⟩, fun w hcode => ?_⟩
  · rw [← hapis, hnil]
    rfl
  obtain ⟨s, d, all, hopens, hall, hout⟩ := listed_of_run hargs hcode
  refine ⟨s, d, all, hopens, ?_⟩
  rw [hout]
  constructor
  · exact hall
  · intro S' _ args' path' w' s' d' hargs' hcode' hopens' hscopes hrows
    obtain ⟨s₁, d₁, all', hopens₁, hall', hout'⟩ := listed_of_run hargs' hcode'
    obtain ⟨rfl, rfl⟩ := hopens'.unique hopens₁
    rw [hout', authorizations_of_rows_eq hrows hall hall', groupsFor, hscopes, shown_nil]
  · rintro service' rfl
    exact congrArg printed (shown_group ⟨service', apis⟩ all)
  · rintro rfl
    simp only [Settings.scope, allows_scopeFor]
    rfl
  · -- both lists are made from the names of the catalog
    rintro service' rfl rfl S' _ args' path' w' hargs' hcode'
    obtain ⟨a, w'', hrun, hserve⟩ := answered_of_exitCode hargs' hcode'
    cases actions_of_answered hserve
    refine ⟨Catalog.standard.forService service', by rw [hrun]; rfl, ?_⟩
    rw [groupsFor, shown_group]
    simp only [← mem_namesForService]
    rfl
  · rintro service' rfl hidle
    have hnone : shown [⟨service', apis⟩] all = [] := by
      rw [shown_group, List.filter_eq_nil_iff]
      rintro a - hshown
      obtain ⟨x, hx, -, hservice', -⟩ := of_decide_eq_true hshown
      exact hidle x hx hservice'
    rw [groupsFor, hnone]
    rfl

/-- Settings that name the scheduler, and authorizations for three actions. -/
def schedulerOnly : Rehearsal where
  files :=
    let config := "name = \"x\"\nenv = \"dev\"\nsqlite_path = \"data\"\n" ++
      "[[authorization.scopes]]\nservice = \"scheduler\"\n"
    let granted (action : String) : Record :=
      [.text "master", .text "admins", .text action, .null, .null]
    let rows := [granted "MGMT_GetUser", granted "ST_GetStatistics", granted "SDLR_GetTasks"]
    let tables : Tables := Tables.empty.setRows .authorizations rows
    ((Tree.empty.put ["config.toml"] (.file (some config))).put ["data"] .directory).put
      ["data", "realmstore.db"] (.database tables)
  remarks := []

/-- One of the three is listed, though the settings would hold it back. -/
theorem authorizations_listed_over_settings :
    let args := ["list-authorizations", "--service", "bridge", "--api=statistic"]
    let run := runFrom args schedulerOnly
    run.1.output = printed [(⟨"master", "admins", "ST_GetStatistics", none, none⟩ : Authorization)] ∧
      ∃ s d all, Opens "config.toml" schedulerOnly s d ∧
        Lists (some .bridge) [.statistic] s d all run.1.output := by
  intro args run
  have hargs : Request.ofArguments args =
      .ok ⟨listAuthorizations (some .bridge) [.statistic], "config.toml"⟩ := rfl
  have hcode : run.1.exitCode = 0 := by decide +kernel
  exact ⟨by decide +kernel, (authorizations_listed hargs).2 schedulerOnly hcode⟩

end Command

end RealmRegistry
