/-
A database in memory and a relational one are interchangeable.

Both keep the same content, each in rows of its own.  What a query gives is told by the content, and
so is what a transaction makes of it when nothing is in its way (`Faithful`).  So nobody who asks
either of them learns which of the two it is, and they keep the same content ever after.

* `Content` — what a registry keeps;
* `Memory.Keeps`, `Relational.Keeps` — the rows in which it is kept;
* `Faithful.run` — databases that are told by their content answer alike;
* `databases_interchangeable` — so both kinds do.
-/
import RealmRegistry.Proofs.Registry.Concurrency
import RealmRegistry.Proofs.Registry.OtherTables

namespace RealmRegistry

open Access Schema Store KeyRow

/-! ### Content -/

/-- A stored context key, with whatever text stands for its settings. -/
structure StoredKey where
  id : String
  label : String
  identitiesRealm : String
  customerRealm : String
  settings : String
deriving DecidableEq

/-- The columns of a stored context key. -/
def StoredKey.columns (k : StoredKey) : List String :=
  [k.id, k.label, k.identitiesRealm, k.customerRealm, k.settings]

instance instKeyRowStoredKey : KeyRow StoredKey where
  scan k := .ok (.ofTexts k.columns)
  id k := some k.id
  customer k := some k.customerRealm
  ofKey k := ⟨k.id, k.label, k.identitiesRealm, k.customerRealm, encode k.config⟩
  scan_ofKey _ := rfl
  id_of_scan h := by cases h; rfl
  customer_of_scan h := by cases h; rfl

/-- What a registry keeps; what may be NULL may be missing. -/
structure Content where
  /-- each realm with its configuration and its administrative configuration -/
  realms : List (String × Option String × Option String)
  keys : List StoredKey
  authorizations : List Authorization
  /-- a realm has one row -/
  oneEach : (realms.map Prod.fst).Nodup
  distinct : DistinctIds keys

/-- The content after some changes. -/
def Content.change (c : Content) (changes : List Change) : Content :=
  { c with keys := applied changes c.keys, distinct := distinctIds_applied changes c.distinct }

/-- The row that a query for a realm gives. -/
def Content.realmRow (c : Content) (statement : Statement) (realm : String) :
    Except Fault (Option Row) :=
  match c.realms.lookup realm with
  | none => .ok none
  | some (configuration, admin) => Memory.realmRow statement configuration admin

/-- Whether a statement asks for the row of a realm. -/
def Store.Statement.isForRealm : Statement → Bool
  | selectBothConfigs => true
  | selectConfig => true
  | selectAdminConfig => true
  | _ => false

/-- The row of a context key. -/
def StoredKey.row (k : StoredKey) : Row := .ofTexts k.columns

/-- The row of an authorization. -/
def Authorization.row (a : Authorization) : Row :=
  ⟨[some a.realmId, some a.groupName, some a.action, a.targetRealmId, a.targetGroupName]⟩

/-! ### Rows in another form -/

section Forms

variable {ρ ρ' : Type} [KeyRow ρ] [KeyRow ρ'] {f : ρ → ρ'}

/-- Rows of context keys may be kept in another form. -/
structure Form (f : ρ → ρ') : Prop where
  id : ∀ r, KeyRow.id (f r) = KeyRow.id r
  customer : ∀ r, KeyRow.customer (f r) = KeyRow.customer r
  ofKey : ∀ k, f (KeyRow.ofKey k) = KeyRow.ofKey k

namespace Form

theorem map_putKey (h : Form f) (k : ContextKey) (rows : List ρ) :
    (putKey k rows).map f = putKey k (rows.map f) := by
  induction rows with
  | nil => rw [putKey, List.map_cons, h.ofKey]; rfl
  | cons r rows ih =>
    rw [putKey, List.map_cons, putKey, h.id]
    split
    · rw [List.map_cons, h.ofKey]
    · rw [List.map_cons, ih]

theorem map_onRows (h : Form f) (c : Change) (rows : List ρ) :
    (c.onRows rows).map f = c.onRows (rows.map f) := by
  cases c with
  | delete i =>
    rw [Change.onRows, Change.onRows, List.filter_map]
    refine congrArg (List.map f) (List.filter_congr fun r _ => ?_)
    rw [Function.comp_apply, h.id]
  | upsert k => exact h.map_putKey k rows

/-- Changes are the same in either form. -/
theorem map_applied (h : Form f) (changes : List Change) (rows : List ρ) :
    (applied changes rows).map f = applied changes (rows.map f) := by
  induction changes generalizing rows with
  | nil => rfl
  | cons c changes ih =>
    show (applied changes (c.onRows rows)).map f = applied changes (c.onRows (rows.map f))
    rw [ih, h.map_onRows]

theorem filter_isOf (h : Form f) (name : String) (rows : List ρ) :
    (rows.map f).filter (isOf name) = (rows.filter (isOf name)).map f := by
  rw [List.filter_map]
  refine congrArg (List.map f) (List.filter_congr fun r _ => ?_)
  rw [Function.comp_apply, isOf, isOf, h.customer]

end Form

end Forms

/-! ### Databases that are told by their content -/

section Told

variable {σ τ : Type} [Backend σ τ]

/-- What can be known of a database is told by the content that it keeps. -/
structure Faithful (Keeps : σ → Content → Prop) : Prop where
  realmRow : ∀ {db c}, Keeps db c → ∀ {statement : Statement}, statement.isForRealm = true →
    ∀ realm, Backend.queryRow db statement [realm] = c.realmRow statement realm
  contextKeys : ∀ {db c}, Keeps db c → ∀ customer,
    Backend.query db .selectContextKeys [customer] = (c.keys.filter (isOf customer)).map scan
  authorizations : ∀ {db c}, Keeps db c →
    Backend.query db .selectAllAuthorizations [] = c.authorizations.map fun a => .ok a.row
  transact : ∀ {db c}, Keeps db c → ∀ changes,
    ∃ db', transact db changes = (.ok (), db') ∧ Keeps db' (c.change changes)

/-- What is read of a registry. -/
def Registry.answer (r : Registry σ) : Reading → Answer
  | .configuration realm => .configuration (r.configuration realm)
  | .adminConfiguration realm => .adminConfiguration (r.adminConfiguration realm)
  | .configurations realm => .configurations (r.configurations realm)
  | .contextKeys customer => .contextKeys (r.contextKeys customer)
  | .authorizations => .authorizations r.authorizations

/-- What a registry can be asked to do. -/
inductive Errand where
  | read (what : Reading)
  | replace (customer : String) (wanted : List ContextKey)
  | restrict (actions : List String)
  | rescope (scope : Scope)

/-- Does what is asked; only a change of the scope has no answer. -/
def Errand.perform (r : Registry σ) : Errand → Option Answer × Registry σ
  | read what => (some (r.answer what), r)
  | replace customer wanted =>
    match r.replaceContextKeys customer wanted with
    | (outcome, r) => (some (.replaced (some outcome)), r)
  | restrict actions => (none, r.restrict actions)
  | rescope scope => (none, { r with scope := scope })

/-- Does one thing after the other and gives all answers. -/
def Errand.performAll (r : Registry σ) : List Errand → List (Option Answer) × Registry σ
  | [] => ([], r)
  | e :: errands =>
    match e.perform r with
    | (answer, r) =>
      match performAll r errands with
      | (answers, r) => (answer :: answers, r)

variable {σ' τ' : Type} [Backend σ' τ'] {Keeps : σ → Content → Prop} {Keeps' : σ' → Content → Prop}
  {db : σ} {db' : σ'} {c : Content}

namespace Faithful

theorem contextKeys_eq (h : Faithful Keeps) (h' : Faithful Keeps') (hdb : Keeps db c)
    (hdb' : Keeps' db' c) (scope : Scope) (customer : String) :
    (Registry.mk db scope).contextKeys customer = (Registry.mk db' scope).contextKeys customer := by
  rw [Registry.contextKeys, Registry.contextKeys, h.contextKeys hdb, h'.contextKeys hdb']

theorem realmRow_eq (h : Faithful Keeps) (h' : Faithful Keeps') (hdb : Keeps db c)
    (hdb' : Keeps' db' c) (scope : Scope) {statement : Statement}
    (hstatement : statement.isForRealm = true) (realm : String) :
    (Registry.mk db scope).realmRow statement realm =
      (Registry.mk db' scope).realmRow statement realm := by
  rw [Registry.realmRow, Registry.realmRow, h.realmRow hdb hstatement,
    h'.realmRow hdb' hstatement]

/-- Databases with the same content answer alike. -/
theorem answer_eq (h : Faithful Keeps) (h' : Faithful Keeps') (hdb : Keeps db c)
    (hdb' : Keeps' db' c) (scope : Scope) (what : Reading) :
    (Registry.mk db scope).answer what = (Registry.mk db' scope).answer what := by
  have hrow (statement : Statement) (hstatement : statement.isForRealm = true) (realm : String) :=
    h.realmRow_eq h' hdb hdb' scope hstatement realm
  cases what with
  | configuration realm =>
    simp only [Registry.answer, Registry.configuration, Registry.realmColumn,
      hrow .selectConfig rfl]
  | adminConfiguration realm =>
    simp only [Registry.answer, Registry.adminConfiguration, Registry.realmColumn,
      hrow .selectAdminConfig rfl]
  | configurations realm =>
    simp only [Registry.answer, Registry.configurations,
      hrow .selectBothConfigs rfl]
  | contextKeys customer =>
    exact congrArg Answer.contextKeys (h.contextKeys_eq h' hdb hdb' scope customer)
  | authorizations =>
    simp only [Registry.answer, Registry.authorizations, h.authorizations hdb,
      h'.authorizations hdb']

/-- What a registry is asked to do has the same answer and leaves the same content, whichever
database it is done in. -/
theorem perform (h : Faithful Keeps) (h' : Faithful Keeps') (hdb : Keeps db c)
    (hdb' : Keeps' db' c) (scope : Scope) (e : Errand) :
    ∃ answer scope₁ db₁ db₁' c₁, e.perform ⟨db, scope⟩ = (answer, ⟨db₁, scope₁⟩) ∧
      e.perform ⟨db', scope⟩ = (answer, ⟨db₁', scope₁⟩) ∧ Keeps db₁ c₁ ∧ Keeps' db₁' c₁ := by
  cases e with
  | read what =>
    refine ⟨_, scope, db, db', c, rfl, ?_, hdb, hdb'⟩
    rw [Errand.perform, h.answer_eq h' hdb hdb']
  | restrict actions => exact ⟨none, scope.restrict actions, db, db', c, rfl, rfl, hdb, hdb'⟩
  | rescope scope₁ => exact ⟨none, scope₁, db, db', c, rfl, rfl, hdb, hdb'⟩
  | replace customer wanted =>
    have hread := h.contextKeys_eq h' hdb hdb' scope customer
    cases hkeys : (Registry.mk db scope).contextKeys customer with
    | error e =>
      refine ⟨some (.replaced (some (.error e))), scope, db, db', c, ?_, ?_, hdb, hdb'⟩
      · rw [Errand.perform, Registry.replaceContextKeys, hkeys]
      · rw [Errand.perform, Registry.replaceContextKeys, ← hread, hkeys]
    | ok existing =>
      -- both carry out the same plan
      obtain ⟨db₁, htransact, hkept⟩ := h.transact hdb (plan existing wanted)
      obtain ⟨db₁', htransact', hkept'⟩ := h'.transact hdb' (plan existing wanted)
      refine ⟨some (.replaced (some (.ok ()))), scope, db₁, db₁', _, ?_, ?_, hkept, hkept'⟩
      · simp only [Errand.perform, Registry.replaceContextKeys, hkeys, htransact]
      · simp only [Errand.perform, Registry.replaceContextKeys, ← hread, hkeys, htransact']

/-- So does all that it is asked to do one after the other. -/
theorem performAll (h : Faithful Keeps) (h' : Faithful Keeps') (hdb : Keeps db c)
    (hdb' : Keeps' db' c) (scope : Scope) (errands : List Errand) :
    ∃ answers scope₁ db₁ db₁' c₁,
      Errand.performAll ⟨db, scope⟩ errands = (answers, ⟨db₁, scope₁⟩) ∧
      Errand.performAll ⟨db', scope⟩ errands = (answers, ⟨db₁', scope₁⟩) ∧
      Keeps db₁ c₁ ∧ Keeps' db₁' c₁ := by
  induction errands generalizing db db' c scope with
  | nil => exact ⟨[], scope, db, db', c, rfl, rfl, hdb, hdb'⟩
  | cons e errands ih =>
    obtain ⟨answer, scope₁, db₁, db₁', c₁, heq, heq', hkept, hkept'⟩ :=
      h.perform h' hdb hdb' scope e
    obtain ⟨answers, scope₂, db₂, db₂', c₂, hrest, hrest', hlast, hlast'⟩ :=
      ih hkept hkept' scope₁
    refine ⟨answer :: answers, scope₂, db₂, db₂', c₂, ?_, ?_, hlast, hlast'⟩
    · simp only [Errand.performAll, heq, hrest]
    · simp only [Errand.performAll, heq', hrest']

end Faithful

end Told

/-! ### In memory -/

namespace Store.Memory

/-- A database in memory keeps some content, and nothing in it is made to fail. -/
structure Keeps (m : Memory) (c : Content) : Prop where
  realms : ∀ realm, m.realms.get? realm = c.realms.lookup realm
  contextKeys : m.contextKeys = c.keys.map StoredKey.row
  authorizations : m.authorizations = c.authorizations.map Authorization.row
  undisturbed : m.failing .none = m

variable {m : Memory} {c : Content}

theorem Keeps.failure (h : m.Keeps c) : m.failure = fun _ => none :=
  (congrArg Memory.failure h.undisturbed).symm

theorem Keeps.iterationFailure (h : m.Keeps c) : m.iterationFailure = fun _ => none :=
  (congrArg Memory.iterationFailure h.undisturbed).symm

theorem Keeps.calm (h : m.Keeps c) : m.Calm :=
  ⟨(congrArg Memory.beginFailure h.undisturbed).symm, fun _ => congrFun h.failure _,
    (congrArg Memory.commitFailure h.undisturbed).symm⟩

theorem Keeps.open (h : m.Keeps c) : m.Open :=
  ⟨congrFun h.failure _, congrFun h.iterationFailure _⟩

theorem form_row : Form StoredKey.row := ⟨fun _ => rfl, fun _ => rfl, fun _ => rfl⟩

theorem Keeps.transact (h : m.Keeps c) (changes : List Change) :
    ∃ m', RealmRegistry.transact m changes = (.ok (), m') ∧ m'.Keeps (c.change changes) := by
  obtain ⟨m', hcalm⟩ := transact_calm (σ := Memory) h.open h.calm changes
  rcases transact_unchanged_or m changes with ⟨text, noted, begun, heq⟩ | heq
  · cases heq.symm.trans hcalm
  · refine ⟨_, heq, h.realms, ?_, h.authorizations, ?_⟩
    · show applied changes m.contextKeys = _
      rw [h.contextKeys, ← form_row.map_applied]
      rfl
    · exact congrArg (fun m : Memory => m.changed _ changes) h.undisturbed

theorem faithful : Faithful Keeps where
  realmRow := by
    intro m c h statement _ realm
    show m.queryRow statement [realm] = c.realmRow statement realm
    rw [queryRow, h.failure, Content.realmRow, ← h.realms]
    rfl
  contextKeys := by
    intro m c h customer
    show m.query .selectContextKeys [customer] = _
    rw [query_open h.open, h.contextKeys, form_row.filter_isOf, List.map_map]
    rfl
  authorizations := by
    intro m c h
    show m.query .selectAllAuthorizations [] = _
    rw [query, h.failure, h.iterationFailure]
    simp only [Memory.rowsFor, h.authorizations, List.map_map]
    rfl
  transact := Keeps.transact

end Store.Memory

/-! ### In tables -/

/-- The cell for a text that may be missing. -/
def Store.Cell.ofText? : Option String → Cell
  | some s => .text s
  | none => .null

/-- The record of a context key. -/
def StoredKey.record (k : StoredKey) : Record := k.columns.map .text

/-- The record of an authorization. -/
def Authorization.record (a : Authorization) : Record :=
  [.text a.realmId, .text a.groupName, .text a.action, .ofText? a.targetRealmId,
    .ofText? a.targetGroupName]

/-- The record of a realm with its configurations. -/
def realmRecord (e : String × Option String × Option String) : Record :=
  [.text e.1, .ofText? e.2.1, .ofText? e.2.2]

namespace Store.Relational

/-- A relational database keeps some content, and nothing is in the way of a transaction. -/
structure Keeps (d : Relational) (c : Content) : Prop where
  realms : d.tables.rows .realms = some (c.realms.map realmRecord)
  contextKeys : d.tables.rows .contextKeys = some (c.keys.map StoredKey.record)
  authorizations : d.tables.rows .authorizations = some (c.authorizations.map Authorization.record)
  canTake : d.CanTake
  calm : d.Calm

variable {d : Relational} {c : Content}

theorem form_record : Form StoredKey.record := ⟨fun _ => rfl, fun _ => rfl, fun _ => rfl⟩

theorem Keeps.open (h : d.Keeps c) : d.Open := ⟨h.canTake, by rw [h.contextKeys]; rfl⟩

theorem Keeps.keyRows (h : d.Keeps c) : d.keyRows = c.keys.map StoredKey.record := by
  rw [Relational.keyRows, h.contextKeys]
  rfl

theorem Keeps.transact (h : d.Keeps c) (changes : List Change) :
    ∃ d', RealmRegistry.transact d changes = (.ok (), d') ∧ d'.Keeps (c.change changes) := by
  obtain ⟨d', htransact⟩ := transact_calm (σ := Relational) h.open h.calm changes
  obtain ⟨hrows, hopen⟩ := transact_ok (σ := Relational) h.open htransact
  have hother {name : TableName} (hname : name ≠ .contextKeys) :
      d'.tables.rows name = d.tables.rows name := by
    have hkept := rows_transact d changes hname
    rwa [htransact] at hkept
  have hrealms : TableName.realms ≠ .contextKeys := by decide
  have hauthorizations : TableName.authorizations ≠ .contextKeys := by decide
  refine ⟨d', htransact, (hother hrealms).trans h.realms, ?_,
    (hother hauthorizations).trans h.authorizations, hopen.1,
    calm_transact h.open h.calm htransact⟩
  obtain ⟨l, hl⟩ := Option.isSome_iff_exists.1 hopen.2
  have hkeys : d'.keyRows = l := by
    rw [Relational.keyRows, hl]
    rfl
  change d'.keyRows = applied changes d.keyRows at hrows
  rw [hl, ← hkeys, hrows, h.keyRows, ← form_record.map_applied]
  rfl

/-- Whether what a statement asks for is there. -/
def asked : Statement → Option String × Option String → Bool
  | .selectBothConfigs, (configuration, admin) => configuration.isSome && admin.isSome
  | .selectConfig, (configuration, _) => configuration.isSome
  | .selectAdminConfig, (_, admin) => admin.isSome
  | _, _ => false

theorem filter_eq_lookup {α : Type} {l : List (String × α)} (h : (l.map Prod.fst).Nodup)
    (k : String) (p : α → Bool) :
    (l.filter fun e => e.1 == k && p e.2) = ((l.lookup k).filter p).toList.map fun a => (k, a) := by
  induction l with
  | nil => rfl
  | cons e r ih =>
    obtain ⟨hnew, hr⟩ := List.nodup_cons.1 h
    obtain ⟨k', a⟩ := e
    by_cases hk : k' = k
    · subst hk
      have hnone : r.lookup k' = none := by
        refine List.lookup_eq_none_iff.2 fun e he => ?_
        rw [bne_iff_ne]
        intro heq
        have hmem : e.1 ∈ r.map Prod.fst := List.mem_map_of_mem he
        exact hnew (heq ▸ hmem)
      rw [List.filter_cons, ih hr, hnone, List.lookup_cons_self]
      cases hp : p a <;> simp [hp, Option.filter]
    · rw [List.filter_cons_of_neg (by simp [hk]), ih hr, List.lookup_cons,
        beq_eq_false_iff_ne.2 (Ne.symm hk)]

/-- A query for a realm asks for its row where what it asks for is there. -/
theorem selection_realm {statement : Statement} (h : statement.isForRealm = true) (realm : String) :
    ∃ s : Tables.Selection, Tables.selection? statement [realm] = some s ∧ s.table = .realms ∧
      (∀ e, s.condition (realmRecord e) = (e.1 == realm && asked statement e.2)) ∧
      ∀ e, (if asked statement e.2 then firstRow [s.row (realmRecord e)] else .ok none) =
        Memory.realmRow statement e.2.1 e.2.2 := by
  have hname (e) : Tables.matchesCell (realmRecord e) 0 (Tables.param [realm] 0) =
      (e.1 == realm) := by
    rw [Bool.eq_iff_iff]
    show (Cell.text realm != .null && Cell.text e.1 == .text realm) = true ↔ _
    simp
  have hpresent (o) : (Cell.ofText? o != .null) = o.isSome := by cases o <;> rfl
  cases statement with
  | selectBothConfigs =>
    refine ⟨_, rfl, rfl, fun e => ?_, fun e => ?_⟩
    · refine (Bool.and_assoc _ _ _).trans (congrArg₂ and (hname e) ?_)
      exact congrArg₂ and (hpresent e.2.1) (hpresent e.2.2)
    · obtain ⟨name, _ | configuration, _ | admin⟩ := e <;> rfl
  | selectConfig =>
    refine ⟨_, rfl, rfl, fun e => congrArg₂ and (hname e) (hpresent e.2.1), fun e => ?_⟩
    obtain ⟨name, _ | configuration, admin⟩ := e <;> rfl
  | selectAdminConfig =>
    refine ⟨_, rfl, rfl, fun e => congrArg₂ and (hname e) (hpresent e.2.2), fun e => ?_⟩
    obtain ⟨name, configuration, _ | admin⟩ := e <;> rfl
  | selectContextKeys => cases h
  | deleteContextKey => cases h
  | upsertContextKey => cases h
  | selectAllAuthorizations => cases h

/-- A query for a realm gives the row of the realm if what it asks for is there. -/
theorem queryRow_realm {realms : List (String × Option String × Option String)} (hcan : d.CanTake)
    (hrealms : d.tables.rows .realms = some (realms.map realmRecord))
    (honce : (realms.map Prod.fst).Nodup) {statement : Statement}
    (hstatement : statement.isForRealm = true) (realm : String) :
    d.queryRow statement [realm] =
      match realms.lookup realm with
      | none => .ok none
      | some (configuration, admin) => Memory.realmRow statement configuration admin := by
  obtain ⟨count, d', htake, -, -⟩ := take_ok hcan
  obtain ⟨s, hs, htable, hcondition, hrow⟩ := selection_realm hstatement realm
  have hquery : d.tables.query statement [realm] =
      (((realms.lookup realm).filter (asked statement)).toList.map fun a =>
        s.row (realmRecord (realm, a))) := by
    have hfilter : (realms.map realmRecord).filter s.condition =
        (realms.filter fun e => e.1 == realm && asked statement e.2).map realmRecord := by
      rw [List.filter_map]
      exact congrArg _ (List.filter_congr fun e _ => hcondition e)
    simp only [Tables.query, hs, htable, Tables.rowsOf, hrealms]
    rw [hfilter, filter_eq_lookup honce, List.map_map, List.map_map]
    rfl
  rw [queryRow, query, htake]
  simp only [hquery]
  cases hlookup : realms.lookup realm with
  | none => rfl
  | some a =>
    simp only [← hrow (realm, a)]
    cases hasked : asked statement a <;> simp [Option.filter, hasked, firstRow]

theorem Keeps.realmRow (h : d.Keeps c) {statement : Statement}
    (hstatement : statement.isForRealm = true) (realm : String) :
    d.queryRow statement [realm] = c.realmRow statement realm :=
  queryRow_realm h.canTake h.realms c.oneEach hstatement realm

theorem row_record (condition : Record → Bool) (a : Authorization) :
    Tables.Selection.row ⟨.authorizations, condition, [0, 1, 2, 3, 4]⟩ a.record = .ok a.row := by
  obtain ⟨realm, group, action, _ | target, _ | targetGroup⟩ := a <;> rfl

theorem faithful : Faithful Keeps where
  realmRow := Keeps.realmRow
  contextKeys := by
    intro d c h customer
    show d.query .selectContextKeys [customer] = _
    rw [query_open h.open, h.keyRows, form_record.filter_isOf, List.map_map]
    rfl
  authorizations := by
    intro d c h
    obtain ⟨count, d', htake, -, -⟩ := take_ok h.canTake
    show d.query .selectAllAuthorizations [] = _
    rw [query, htake]
    simp only [Tables.query, Tables.selection?, Tables.rowsOf, h.authorizations, List.filter_true,
      List.map_map, Function.comp_def, row_record]
  transact := Keeps.transact

end Store.Relational

/-! ### Both -/

namespace Content

/-- A database in memory with some content. -/
def inMemory (c : Content) : Memory :=
  { Memory.empty with
    realms := Dict.ofList c.realms
    contextKeys := c.keys.map StoredKey.row
    authorizations := c.authorizations.map Authorization.row }

theorem keeps_inMemory (c : Content) : c.inMemory.Keeps c :=
  ⟨Dict.get?_ofList_of_nodup c.oneEach, rfl, rfl, rfl⟩

/-- A relational database with so many connections and some content. -/
def inTables (c : Content) (connections : Nat) : Relational :=
  Relational.opened connections
    (((Tables.empty.setRows .realms (c.realms.map realmRecord)).setRows .contextKeys
      (c.keys.map StoredKey.record)).setRows .authorizations
        (c.authorizations.map Authorization.record))

theorem keeps_inTables (c : Content) {connections : Nat} (h : 0 < connections) :
    (c.inTables connections).Keeps c := by
  refine ⟨rfl, rfl, rfl, ⟨rfl, .inl ?_⟩, rfl, rfl, rfl, rfl⟩
  show List.replicate (min connections Relational.initialConnections) 0 ≠ []
  rw [ne_eq, List.replicate_eq_nil_iff, Relational.initialConnections]
  omega

end Content

/-- Whatever content a registry begins with and whatever it is asked to do, it answers alike in
memory and in tables, and keeps the same rows in the same order. -/
theorem databases_interchangeable {c : Content} {m : Memory} {d : Relational} (hm : m.Keeps c)
    (hd : d.Keeps c) (scope : Scope) (errands : List Errand) :
    (Errand.performAll ⟨m, scope⟩ errands).1 = (Errand.performAll ⟨d, scope⟩ errands).1 ∧
      (Errand.performAll ⟨m, scope⟩ errands).2.scope =
        (Errand.performAll ⟨d, scope⟩ errands).2.scope ∧
      ∃ c' : Content, (Errand.performAll ⟨m, scope⟩ errands).2.database.Keeps c' ∧
        (Errand.performAll ⟨d, scope⟩ errands).2.database.Keeps c' := by
  obtain ⟨answers, scope', m', d', c', hmemory, hrelational, hm', hd'⟩ :=
    Memory.faithful.performAll Relational.faithful hm hd scope errands
  rw [hmemory, hrelational]
  exact ⟨rfl, rfl, c', hm', hd'⟩

/-- One realm has no administrative configuration, the settings of one key are malformed, and one
customer realm takes a key over from another. -/
theorem databases_interchangeable_taking_over :
    let c : Content :=
      { realms := [("acme", some "\x7b\x7d", none), ("other", none, some "null")]
        keys := [⟨"A", "old", "identities", "acme", "\x7b\x7d"⟩,
          ⟨"B", "old", "identities", "other", "[]"⟩]
        authorizations := [⟨"acme", "admins", "MGMT_GetUsers", some "*", none⟩]
        oneEach := by decide
        distinct := show ["A", "B"].Nodup by decide }
    let errands : List Errand := [.read (.configurations "acme"), .read (.contextKeys "other"),
      .replace "other" [], .replace "acme" [bareKey "B" "new" "acme"], .read (.contextKeys "acme"),
      .restrict ["MGMT_GetRealms"], .read .authorizations]
    c.inMemory.Keeps c ∧ (c.inTables 1).Keeps c ∧
      (Errand.performAll ⟨c.inMemory, .unrestricted⟩ errands).1 =
        (Errand.performAll ⟨c.inTables 1, .unrestricted⟩ errands).1 := by
  intro c errands
  have hmemory := c.keeps_inMemory
  have htables := c.keeps_inTables Nat.one_pos
  exact ⟨hmemory, htables,
    (databases_interchangeable hmemory htables .unrestricted errands).1⟩

end RealmRegistry
