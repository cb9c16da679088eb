/-
What command lines print of the configurations of a realm.

A command that only reads opens a database and asks it for something, and is answered with a document
of what it was asked for.  So the three commands for the configurations of a realm agree as the three
ways to read them do.

* `Opens.canTake` — a database that was opened can be queried;
* `Gives`, `gives_asked` — what comes of a command line that reads, told by what is read;
* `Asks` — a command line that finds a database with certain realms;
* `configurations_agree` — the ways to read configurations agree, and what is printed does.
-/
import RealmRegistry.Proofs.Command.Listing
import RealmRegistry.Proofs.Command.Storage
import RealmRegistry.Proofs.Registry.Configurations

namespace RealmRegistry

open Schema Access Store

/-- A database that was connected to has a connection. -/
theorem Store.Relational.canTake_of_connect {connections wait : Nat} {t : Tables} {d : Relational}
    (h : Relational.connect connections wait t = .ok d) : d.CanTake := by
  rw [connect] at h
  split at h
  · cases h
  next hsome =>
    split at h
    · cases h
    · cases h
      refine ⟨rfl, .inl fun hidle => ?_⟩
      have hmin : min connections initialConnections = 0 := (List.replicate_eq_nil_iff _).1 hidle
      simp only [initialConnections] at hmin
      omega

namespace Command

/-! ### Databases that are opened -/

section Opening

variable {S : Type} [Host (StateM S)] {w w' : S} {path : String} {s : Settings} {j : Journal}
  {location : Location} {d : Relational}

theorem Opens.canTake (h : Opens path w s d) : d.CanTake := by
  obtain ⟨found, j, location, u, v, v', -, -, hopen⟩ := h
  obtain ⟨_, _, -, hopen⟩ := runAt_bind_eq_ok.1 hopen
  obtain ⟨_, _, -, hopen⟩ := runAt_bind_eq_ok.1 hopen
  obtain ⟨tables, _, -, hopen⟩ := runAt_bind_eq_ok.1 hopen
  obtain ⟨d', u', hconnect, hpure⟩ := runAt_bind_eq_ok.1 hopen
  cases hpure
  exact Relational.canTake_of_connect (mapError_eq_ok.1 (congrArg Prod.fst hconnect))

/-- The registry of a database file is open when the database is. -/
theorem openRegistry_of_openDatabase (hkind : s.storage.kind = .sqlite)
    (h : runAt (openDatabase s) w = (.ok (location, d), w')) :
    ∃ v, runAt (openRegistry s j) w = (.ok (location, ⟨d, s.scope Catalog.standard⟩), v) := by
  rw [openRegistry, hkind]
  exact ⟨_, runAt_bind_eq_ok.2 ⟨_, _, h, runAt_bind_eq_ok.2 ⟨(), _, runAt_lift _ _, rfl⟩⟩⟩

end Opening

/-! ### What is read -/

/-- An outcome is told by what was read: it is a document of this, or a failure. -/
structure Gives {α : Type} (o : Outcome) (x : Except Fault α) (document : α → Json) : Prop where
  exitCode : o.exitCode = 0 ↔ ∃ a, x = .ok a
  output : ∀ a, x = .ok a → o.output = (Answer.document (document a)).output

section Reading

variable {S : Type} [Host (StateM S)] {w : S} {args : List String} {path : String} {s : Settings}
  {d : Relational} {c : Command} {α : Type} {entries : Fault → List Log.Entry}
  {x : Registry Relational → Except Fault α} {document : α → Json}

/-- What comes of a command line that asks a database for something is told by what it is asked
for. -/
theorem gives_asked (hargs : Request.ofArguments args = .ok ⟨c, path⟩) (hverb : c.verb ≠ .test)
    (hexecute : ∀ s j, (c.execute s j : ExceptT Failure (StateM S) Json) =
      asked s j entries x document)
    (hopens : Opens path w s d) (hkind : s.storage.kind = .sqlite) :
    Gives (runFrom args w).1 (x ⟨d, s.scope Catalog.standard⟩) document := by
  have hanswered (a : α) (ha : x ⟨d, s.scope Catalog.standard⟩ = .ok a) :
      (runFrom args w).1 = .answered (.document (document a)) := by
    obtain ⟨found, j, location, u, v, v', hacquire, hlog, hopen⟩ := hopens
    obtain ⟨v'', hregistry⟩ := openRegistry_of_openDatabase (j := j) hkind hopen
    have hasked : runAt (c.execute s j) ((record j (Journal.started found s) : StateM S Unit) v).2 =
        (.ok (document a), v'') := by
      rw [hexecute]
      refine runAt_bind_eq_ok.2 ⟨_, _, hregistry, runAt_bind_eq_ok.2 ⟨a, v'', ?_, rfl⟩⟩
      rw [ha]
      rfl
    have hcarry : runAt (c.carryOut found s) u = (.ok (document a), v'') :=
      runAt_carryOut_eq_ok.2 ⟨j, v, hlog, hasked⟩
    have hserve : runAt (serve ⟨c, path⟩) w = (.ok (.document (document a)), v'') := by
      rw [serve_of_ne_test hverb, perform_eq]
      exact runAt_bind_eq_ok.2 ⟨_, _, runAt_bind_eq_ok.2 ⟨_, _, hacquire, hcarry⟩, rfl⟩
    rw [runFrom_of_request hargs, hserve]
  refine ⟨⟨fun hcode => ?_, fun ⟨a, ha⟩ => by rw [hanswered a ha]; rfl⟩,
    fun a ha => by rw [hanswered a ha]; rfl⟩
  obtain ⟨b, w', -, hserve⟩ := answered_of_exitCode hargs hcode
  obtain ⟨found, s', u, v, hacquire, hcarry, -⟩ := document_of_answered hverb hserve
  obtain ⟨j, u', hlog, hrun⟩ := runAt_carryOut_eq_ok.1 hcarry
  rw [hexecute] at hrun
  obtain ⟨location, ⟨d', scope⟩, v', a, hopen, ha, -⟩ := ok_of_asked hrun
  obtain ⟨⟨_, hdatabase⟩, hscope⟩ := opened_of_openRegistry hopen
  -- it was this database that it found
  obtain ⟨rfl, rfl⟩ := hopens.unique ⟨found, j, location, u, u', _, hacquire, hlog, hdatabase⟩
  exact ⟨a, hscope ▸ ha⟩

end Reading

/-! ### Configurations -/

/-- A command line that comes to a command, and finds a database with these realms. -/
def Asks {S : Type} [Host (StateM S)] (args : List String) (w : S) (c : Command)
    (realms : List (String × Option String × Option String)) : Prop :=
  ∃ path s d, Request.ofArguments args = .ok ⟨c, path⟩ ∧ Opens path w s d ∧
    s.storage.kind = .sqlite ∧ d.tables.HasRealms realms

section Configurations

variable {S : Type} [Host (StateM S)] {w : S} {args : List String} {realm : String}
  {realms : List (String × Option String × Option String)}

theorem gives_getConfig (h : Asks args w (getConfig realm) realms) :
    Gives (runFrom args w).1
      (readColumn RealmConfiguration.ofStored realm ((realms.lookup realm).bind Prod.fst))
      toJson := by
  obtain ⟨path, s, d, hargs, hopens, hkind, hrealms⟩ := h
  rw [← configuration_eq (hrealms.tellsColumns hopens.canTake) (s.scope Catalog.standard)]
  exact gives_asked (x := fun r => r.configuration realm) hargs nofun (fun _ _ => rfl) hopens hkind

theorem gives_getAdminConfig (h : Asks args w (getAdminConfig realm) realms) :
    Gives (runFrom args w).1
      (readColumn (decode AdminConfiguration) realm ((realms.lookup realm).bind Prod.snd))
      toJson := by
  obtain ⟨path, s, d, hargs, hopens, hkind, hrealms⟩ := h
  rw [← adminConfiguration_eq (hrealms.tellsColumns hopens.canTake) (s.scope Catalog.standard)]
  exact gives_asked (x := fun r => r.adminConfiguration realm) hargs nofun (fun _ _ => rfl) hopens
    hkind

theorem gives_getConfigs (h : Asks args w (getConfigs realm) realms) :
    ∃ r : Registry Relational, ReadsAgree r realm (realms.lookup realm) ∧
      Gives (runFrom args w).1 (r.configurations realm) fun p => bothDocument p.1 p.2 := by
  obtain ⟨path, s, d, hargs, hopens, hkind, hrealms⟩ := h
  refine ⟨⟨d, s.scope Catalog.standard⟩, readsAgree (hrealms.tellsColumns hopens.canTake) _ realm, ?_⟩
  exact gives_asked (x := fun r => r.configurations realm) hargs nofun (fun _ _ => rfl) hopens hkind

end Configurations

/-- How the configurations of a realm are read in three ways, and printed. -/
structure ConfigurationsAgree : Prop where
  /-- The three ways agree in a database in memory of which no query for a realm is made to fail, -/
  memory : ∀ (m : Memory) (scope : Scope) (realm : String), m.ReadsRealms →
    ReadsAgree ⟨m, scope⟩ realm (m.realms.get? realm)
  /-- and in one that is open, with a connection and a table of realms; -/
  relational : ∀ (d : Relational) (scope : Scope) (realm : String)
    (realms : List (String × Option String × Option String)),
    d.CanTake → d.tables.HasRealms realms → ReadsAgree ⟨d, scope⟩ realm (realms.lookup realm)
  /-- command lines that find the same realms print both configurations if they print each of them,
  and then as the members of one document. -/
  printed : ∀ {S₁ S₂ S₃ : Type} [Host (StateM S₁)] [Host (StateM S₂)] [Host (StateM S₃)]
    (both plain admin : List String) (w₁ : S₁) (w₂ : S₂) (w₃ : S₃) (realm : String)
    (realms : List (String × Option String × Option String)),
    Asks both w₁ (getConfigs realm) realms → Asks plain w₂ (getConfig realm) realms →
    Asks admin w₃ (getAdminConfig realm) realms →
    ((runFrom both w₁).1.exitCode = 0 ↔
      (runFrom plain w₂).1.exitCode = 0 ∧ (runFrom admin w₃).1.exitCode = 0) ∧
    ((runFrom both w₁).1.exitCode = 0 → ∃ u v,
      parseJson (runFrom plain w₂).1.output = .ok u ∧
      parseJson (runFrom admin w₃).1.output = .ok v ∧
      parseJson (runFrom both w₁).1.output =
        .ok (.object [("admin_configuration", v), ("configuration", u)]))

/-- The configurations of a realm are the same in whichever way they are read and printed. -/
theorem configurations_agree : ConfigurationsAgree where
  memory m scope realm h := readsAgree h.tellsColumns scope realm
  relational d scope realm realms hcan h := readsAgree (h.tellsColumns hcan) scope realm
  printed := by
    intro S₁ S₂ S₃ _ _ _ both plain admin w₁ w₂ w₃ realm realms hboth hplain hadmin
    have hplain := gives_getConfig hplain
    have hadmin := gives_getAdminConfig hadmin
    obtain ⟨r, hagree, hboth⟩ := gives_getConfigs hboth
    rw [← hagree.configuration] at hplain
    rw [← hagree.adminConfiguration] at hadmin
    refine ⟨?_, fun hcode => ?_⟩
    · rw [hboth.exitCode, hplain.exitCode, hadmin.exitCode]
      constructor
      · rintro ⟨⟨c, a⟩, hread⟩
        obtain ⟨hc, ha⟩ := (hagree.both c a).1 hread
        exact ⟨⟨c, hc⟩, ⟨a, ha⟩⟩
      · rintro ⟨⟨c, hc⟩, ⟨a, ha⟩⟩
        exact ⟨(c, a), (hagree.both c a).2 ⟨hc, ha⟩⟩
    · obtain ⟨⟨c, a⟩, hread⟩ := hboth.exitCode.1 hcode
      obtain ⟨hc, ha⟩ := (hagree.both c a).1 hread
      refine ⟨(toJson c).sorted, (toJson a).sorted, ?_, ?_, ?_⟩
      · rw [hplain.output c hc]
        exact isReadBack_toJson RealmConfiguration.sound (by decide) c
      · rw [hadmin.output a ha]
        exact isReadBack_toJson Recoverable.sound (by decide) a
      · rw [hboth.output (c, a) hread, parseJson_bothDocument, bothDocument_eq]

/-- The settings and the database that a command goes by. -/
def opened? {S : Type} [Host (StateM S)] (path : String) (w : S) : Option (Settings × Relational) :=
  match runAt (acquire path) w with
  | (.error _, _) => none
  | (.ok (found, s), u) =>
    match runAt (openLog s) u with
    | (.error _, _) => none
    | (.ok j, v) =>
      match runAt (openDatabase s) ((record j (Journal.started found s) : StateM S Unit) v).2 with
      | (.error _, _) => none
      | (.ok (_, d), _) => some (s, d)

theorem opens_of_opened? {S : Type} [Host (StateM S)] {w : S} {path : String} {s : Settings}
    {d : Relational} (h : opened? path w = some (s, d)) : Opens path w s d := by
  rw [opened?] at h
  split at h
  · cases h
  next found s' u hacquire =>
    split at h
    · cases h
    next j v hlog =>
      split at h
      · cases h
      next location d' v' hopen =>
        cases h
        exact ⟨found, j, location, u, v, v', hacquire, hlog, hopen⟩

/-- Two realms.  One has no configuration, and something unfit in the other column. -/
def twoRealms : List (String × Option String × Option String) :=
  [("acme", some "\x7b\"allowed_fields\":null\x7d", some "\x7b\"accreditations\":[]\x7d"),
    ("other", none, some "[")]

/-- Settings that will do, and a database with two realms. -/
def realmsOnDisk : Rehearsal where
  files :=
    let config := "name = \"x\"\nenv = \"dev\"\nsqlite_path = \"data\"\n"
    let tables : Tables := Tables.empty.setRows .realms (twoRealms.map realmRecord)
    ((Tree.empty.put ["config.toml"] (.file (some config))).put ["data"] .directory).put
      ["data", "realmstore.db"] (.database tables)
  remarks := []

theorem asks_realmsOnDisk {args : List String} {c : Command}
    (hargs : Request.ofArguments args = .ok ⟨c, "config.toml"⟩) :
    Asks args realmsOnDisk c twoRealms := by
  have hfound : (opened? "config.toml" realmsOnDisk).map
      (fun p => (p.1.storage.kind, p.2.tables.rows .realms)) =
        some (.sqlite, some (twoRealms.map realmRecord)) := by decide +kernel
  obtain ⟨⟨s, d⟩, hopened, hsame⟩ := Option.map_eq_some_iff.1 hfound
  obtain ⟨hkind, hrows⟩ := Prod.mk.inj hsame
  exact ⟨_, s, d, hargs, opens_of_opened? hopened, hkind, hrows, by decide⟩

/-- Of one realm both configurations are printed, of the other one neither. -/
theorem configurations_agree_on_disk :
    let run (verb realm : String) := (runFrom [verb, realm] realmsOnDisk).1
    (∃ u v, parseJson (run "get-config" "acme").output = .ok u ∧
      parseJson (run "get-admin-config" "acme").output = .ok v ∧
      parseJson (run "get-configs" "acme").output =
        .ok (.object [("admin_configuration", v), ("configuration", u)])) ∧
    (run "get-configs" "other").exitCode ≠ 0 := by
  intro run
  constructor
  · have hcode : (run "get-configs" "acme").exitCode = 0 := by decide +kernel
    exact (configurations_agree.printed ["get-configs", "acme"] ["get-config", "acme"]
      ["get-admin-config", "acme"] realmsOnDisk realmsOnDisk realmsOnDisk "acme" twoRealms
      (asks_realmsOnDisk rfl) (asks_realmsOnDisk rfl) (asks_realmsOnDisk rfl)).2 hcode
  · intro hcode
    have hplain : (run "get-config" "other").exitCode = 0 :=
      ((configurations_agree.printed ["get-configs", "other"] ["get-config", "other"]
        ["get-admin-config", "other"] realmsOnDisk realmsOnDisk realmsOnDisk "other" twoRealms
        (asks_realmsOnDisk rfl) (asks_realmsOnDisk rfl) (asks_realmsOnDisk rfl)).1.1 hcode).1
    have hfails : (run "get-config" "other").exitCode = 1 := by decide +kernel
    exact Nat.zero_ne_one (hplain.symm.trans hfails)

end Command

end RealmRegistry
