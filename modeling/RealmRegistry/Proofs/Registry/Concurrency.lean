/-
Overlapping replacements in a database.

Two replacements whose transactions do not overlap, and which both succeed, are carried out one
after the other (`Race.serial`).  For different customer realms they leave what they leave in turn,
in whichever order; for one customer realm the second one may leave keys of the first one which it
had not read.

* `InTurn` — replacements one after the other;
* `Untangled`, `overlapping_two_customers` — for different customer realms nothing is lost or left;
* `overlapping_same_customer` — exactly what is left for one customer realm.
-/
import RealmRegistry.Proofs.Registry.History
import RealmRegistry.Proofs.Registry.Overlap

namespace RealmRegistry

open Store KeyRow

section Registries

variable {σ τ : Type} [Backend σ τ]

/-! ### One after the other -/

theorem replaceContextKeys_ok_iff {r r' : Registry σ} {customer : String}
    {wanted : List ContextKey} :
    r.replaceContextKeys customer wanted = (.ok (), r') ↔
      ∃ existing, r.contextKeys customer = .ok existing ∧
        ∃ db, transact r.database (plan existing wanted) = (.ok (), db) ∧
          { r with database := db } = r' := by
  rw [Registry.replaceContextKeys]
  cases hread : r.contextKeys customer with
  | error e =>
    constructor
    · intro h
      cases h
    · rintro ⟨existing, h, -⟩
      cases h
  | ok existing =>
    constructor
    · intro h
      rcases htransact : transact r.database (plan existing wanted) with ⟨outcome, db⟩
      simp only [htransact] at h
      cases h
      exact ⟨existing, rfl, db, htransact, rfl⟩
    · rintro ⟨_, hexisting, db, htransact, rfl⟩
      cases hexisting
      simp only [htransact]

/-- Both replacements succeed one after the other, beginning with one of them. -/
def InTurn (db : σ) (wishes : Side → Wish) (s : Side) (db' : σ) : Prop :=
  ∃ between,
    (Registry.ofDatabase db).replaceContextKeys (wishes s).customer (wishes s).wanted =
      (.ok (), .ofDatabase between) ∧
    (Registry.ofDatabase between).replaceContextKeys (wishes s.other).customer
      (wishes s.other).wanted = (.ok (), .ofDatabase db')

variable {ρ : Type} [KeyRow ρ] [Tabular σ τ ρ] {db db' : σ} {wishes : Side → Wish}
  {schedule : List Side}

theorem transact_ok {changes : List Change} (h : Tabular.Open db)
    (htransact : transact db changes = (.ok (), db')) :
    Tabular.rows db' = applied changes (Tabular.rows db) ∧ Tabular.Open db' := by
  rcases transact_cases h changes with ⟨f, db₁, heq, -⟩ | ⟨db₁, heq, hrows, hopen⟩
  · cases heq.symm.trans htransact
  · cases heq.symm.trans htransact
    exact ⟨hrows, hopen⟩

/-- A replacement that succeeds carries out its plan for the keys that it reads. -/
theorem replaced_iff {customer : String} {wanted : List ContextKey} :
    (Registry.ofDatabase db).replaceContextKeys customer wanted = (.ok (), .ofDatabase db') ↔
      ∃ existing, Tabular.Open db ∧ Reads customer (Tabular.rows db) existing ∧
        transact db (plan existing wanted) = (.ok (), db') := by
  rw [replaceContextKeys_ok_iff]
  refine exists_congr fun existing => ?_
  rw [contextKeys_ok_iff, and_assoc]
  refine and_congr_right fun _ => and_congr_right fun _ => ?_
  constructor
  · rintro ⟨db₁, h, heq⟩
    cases heq
    exact h
  · intro h
    exact ⟨db', h, rfl⟩

/-- Replacements in turn are plans one after the other. -/
theorem InTurn.successive {s : Side} (h : InTurn db wishes s db') :
    ∃ mid e e', Successive (wishes s) (wishes s.other) False (Tabular.rows db) mid
      (Tabular.rows db') e e' := by
  obtain ⟨between, hfirst, hsecond⟩ := h
  obtain ⟨e, hopen, hread, hfirst⟩ := replaced_iff.1 hfirst
  obtain ⟨e', hopen', hread', hsecond⟩ := replaced_iff.1 hsecond
  exact ⟨_, e, e', hread, (transact_ok hopen hfirst).1, False.elim, fun _ => hread',
    (transact_ok hopen' hsecond).1⟩

namespace Race

theorem InOrder.successive {s : Side} {between : σ} {existing : List ContextKey}
    (h : InOrder db wishes schedule s between existing) :
    ∃ e, Tabular.Open db ∧ transact db (plan e (wishes s).wanted) = (.ok (), between) ∧
      Tabular.Open between ∧
      Successive (wishes s) (wishes s.other) ((start db wishes).ReadsEarly schedule s.other)
        (Tabular.rows db) (Tabular.rows between)
        (Tabular.rows ((start db wishes).run schedule).database) e existing := by
  obtain ⟨e, hopen, hread, hfirst⟩ := replaced_iff.1 h.alone
  obtain ⟨hmid, hbetween⟩ := transact_ok hopen hfirst
  exact ⟨e, hopen, hfirst, hbetween, hread, hmid,
    fun hearly => (contextKeys_ok_iff.1 (h.early hearly)).2,
    fun hlate => (contextKeys_ok_iff.1 (h.late hlate)).2, (transact_ok hbetween h.planned).1⟩

end Race

/-! ### One customer realm -/

/-- Two replacements for one customer realm overlap and succeed.  All keys of the second one are
there; of the others those that it had not read because the first one put them in. -/
theorem overlapping_same_customer {customer : String}
    (hids : DistinctIds (Tabular.rows db)) (hcustomer : ∀ s, (wishes s).customer = customer)
    (hnodup : ∀ s, ((wishes s).wanted.map ContextKey.id).Nodup)
    (hown : ∀ s, (wishes s).Own (Tabular.rows db))
    (hapart : (Race.start db wishes).Apart schedule)
    (hok : ∀ s, ((Race.start db wishes).run schedule).calls s = .finished (.ok ()))
    {s : Side} (hfirst : (Race.start db wishes).EndsFirst schedule s) :
    LastWins customer (wishes s).wanted (wishes s.other).wanted
      ((Race.start db wishes).ReadsEarly schedule s.other) (Tabular.rows db)
      (Tabular.rows ((Race.start db wishes).run schedule).database) := by
  obtain ⟨t, between, existing, horder⟩ := Race.serial hapart hok
  -- the call that ends first is the one that comes first
  have ht : t = s := by
    rcases t.eq_or_eq_other s with rfl | rfl
    · rfl
    · exact absurd hfirst horder.last
  subst ht
  obtain ⟨e, -, -, -, h⟩ := horder.successive
  rw [← hcustomer t.other]
  exact h.lastWins hids (hown t) (hown t.other) ((hcustomer _).trans (hcustomer t).symm)
    (hnodup t) (hnodup t.other)

/-- Both calls replace keys of one customer realm: one keeps its key, which the other one has read
and deletes, and adds a key, which stays since the other one has not read it. -/
theorem overlapping_same_customer_left :
    let old := [bareKey "A" "old" "acme", bareKey "X" "old" "other"]
    let wishes : Side → Wish
      | .first => ⟨"acme", [bareKey "A" "new" "acme", bareKey "B" "new" "acme"]⟩
      | .second => ⟨"acme", [bareKey "C" "new" "acme"]⟩
    let schedule : List Side := [.first, .second] ++ .replicate 4 .first ++ .replicate 4 .second
    let new := ((Race.start (Memory.storing old) wishes).run schedule).database.contextKeys
    (ofKey (bareKey "C" "new" "acme") ∈ new) ∧
      (∃ r ∈ new, isOf "acme" r = true ∧ KeyRow.id r = some "B") ∧
      ¬ ∃ r ∈ new, isOf "acme" r = true ∧ KeyRow.id r = some "A" := by
  intro old wishes schedule new
  have hids : DistinctIds (Memory.storing old).contextKeys := distinctIds_ofKeys (by decide)
  have hcustomer : ∀ s, (wishes s).customer = "acme" := by decide
  have hnodup : ∀ s, ((wishes s).wanted.map ContextKey.id).Nodup := by decide
  have hown : ∀ s, (wishes s).Own (Memory.storing old).contextKeys := by
    intro s
    cases s <;> exact own_of_keys (by decide) (by decide)
  have hapart : (Race.start (Memory.storing old) wishes).Apart schedule := by decide +kernel
  have hok : ∀ s, ((Race.start (Memory.storing old) wishes).run schedule).calls s =
      .finished (.ok ()) :=
    Race.succeeded (by decide +kernel)
  have hfirst : (Race.start (Memory.storing old) wishes).EndsFirst schedule .first := by
    decide +kernel
  have hearly : (Race.start (Memory.storing old) wishes).ReadsEarly schedule .second := by
    decide +kernel
  obtain ⟨hkept, -, hleft, -, -⟩ :=
    overlapping_same_customer hids hcustomer hnodup hown hapart hok hfirst
  refine ⟨hkept _ List.mem_cons_self, ?_, ?_⟩
  · -- no row had this identifier
    refine (hleft (bareKey "B" "new" "acme") (by decide) (by decide)).2 ⟨hearly, ?_⟩
    intro r hr _ hid
    obtain ⟨k, hk, rfl⟩ := List.mem_map.1 hr
    rw [id_ofKey] at hid
    have hnone : ∀ k ∈ old, k.id ≠ "B" := by decide
    exact hnone k hk (Option.some.inj hid)
  · intro hthere
    obtain ⟨-, hnone⟩ := (hleft (bareKey "A" "new" "acme") (by decide) (by decide)).1 hthere
    exact hnone _ List.mem_cons_self (isOf_ofKey_iff.2 rfl) (id_ofKey _)

/-! ### Two customer realms -/

/-- Two customer realms that want keys of their own, none of which has the identifier of a row or a
key of the other one. -/
structure Strangers (rows : List ρ) (wishes : Side → Wish) : Prop where
  distinct : DistinctIds rows
  customers : (wishes .first).customer ≠ (wishes .second).customer
  own : ∀ s, (wishes s).Own rows
  unshared : ∀ k ∈ (wishes .first).wanted, ∀ k' ∈ (wishes .second).wanted, k.id ≠ k'.id

namespace Strangers

variable {old mid new : List ρ} {early : Prop} {e e' : List ContextKey} {s : Side}

omit [Backend σ τ] [Tabular σ τ ρ] in
theorem customer_ne (h : Strangers old wishes) (s : Side) :
    (wishes s.other).customer ≠ (wishes s).customer := by
  cases s with
  | first => exact h.customers.symm
  | second => exact h.customers

omit [Backend σ τ] [Tabular σ τ ρ] in
/-- Two plans, in whichever order, make the same rows. -/
theorem mem_iff (h : Strangers old wishes)
    (hplans : Successive (wishes s) (wishes s.other) early old mid new e e') (r : ρ) :
    r ∈ new ↔ Merged (wishes .first) (wishes .second) old r := by
  have hne := h.customer_ne s
  cases s with
  | first => exact hplans.mem_apart h.distinct (h.own .first) hne h.unshared
  | second =>
    rw [← merged_comm]
    exact hplans.mem_apart h.distinct (h.own .second) hne
      fun k hk k' hk' heq => h.unshared k' hk' k hk heq.symm

omit [Backend σ τ] [Tabular σ τ ρ] in
theorem reads (h : Strangers old wishes)
    (hplans : Successive (wishes s) (wishes s.other) early old mid new e e') (t : Side) :
    ∃ keys, Reads (wishes t).customer new keys ∧ keys.Perm (lastKeys (wishes t).wanted) := by
  have hids := hplans.distinct_new h.distinct
  have hnew := h.mem_iff hplans
  cases t with
  | first => exact reads_merged hids (h.own .first) (h.own .second) h.customers hnew
  | second =>
    exact reads_merged hids (h.own .second) (h.own .first) h.customers.symm
      fun r => (hnew r).trans merged_comm

omit [Backend σ τ] [Tabular σ τ ρ] in
/-- A plan leaves what the other one goes by. -/
theorem reads_applied (h : Strangers old wishes) (hread : Reads (wishes s).customer old e)
    (hother : Reads (wishes s.other).customer old e') :
    Reads (wishes s.other).customer (applied (plan e (wishes s).wanted) old) e' :=
  hother.congr (filter_other (h.own s) (h.customer_ne s) fun _ hr hof =>
    not_wanted_of_read h.distinct hread (h.customer_ne s) hr hof)

end Strangers

/-- Two replacements that come out as they do in turn. -/
structure Untangled (db : σ) (wishes : Side → Wish) (db' : σ) : Prop where
  /-- in one order they leave the same database, -/
  inTurn : ∃ s, InTurn db wishes s db'
  /-- and in whichever order the same rows; -/
  eitherWay : ∀ s db₁, InTurn db wishes s db₁ → ∀ r, r ∈ Tabular.rows db' ↔ r ∈ Tabular.rows db₁
  distinct : DistinctIds (Tabular.rows db')
  /-- the last key for each identifier is read, and no other. -/
  read : ∀ s, ∃ keys, (Registry.ofDatabase db').contextKeys (wishes s).customer = .ok keys ∧
    keys.Perm (lastKeys (wishes s).wanted)

theorem untangled (h : Strangers (Tabular.rows db) wishes)
    (hapart : (Race.start db wishes).Apart schedule)
    (hok : ∀ s, ((Race.start db wishes).run schedule).calls s = .finished (.ok ())) :
    Untangled db wishes ((Race.start db wishes).run schedule).database := by
  obtain ⟨s, between, existing, horder⟩ := Race.serial hapart hok
  obtain ⟨e, -, -, hbetween, hplans⟩ := horder.successive
  -- so the second call may as well have read after the first one ended
  have hreads := hplans.reads_mid h.distinct (h.own s) (h.customer_ne s)
  have hopen := (transact_ok hbetween horder.planned).2
  refine ⟨⟨s, between, horder.alone, ?_⟩, fun t db₁ hturn r => ?_, hplans.distinct_new h.distinct,
    fun t => ?_⟩
  · exact replaced_iff.2 ⟨existing, hbetween, hreads, horder.planned⟩
  · obtain ⟨mid, e₁, e₁', hplans₁⟩ := hturn.successive
    rw [h.mem_iff hplans, h.mem_iff hplans₁]
  · obtain ⟨keys, hkeys, hperm⟩ := h.reads hplans t
    exact ⟨keys, contextKeys_ok_iff.2 ⟨hopen, hkeys⟩, hperm⟩

/-- If the plans can be carried out one after the other whatever came before, the replacements
succeed in either order. -/
theorem exists_inTurn (h : Strangers (Tabular.rows db) wishes)
    (hapart : (Race.start db wishes).Apart schedule)
    (hok : ∀ s, ((Race.start db wishes).run schedule).calls s = .finished (.ok ()))
    (steady : σ → Prop)
    (hsteady : steady db)
    (hkeeps : ∀ {db₁ db₂ changes}, steady db₁ → Tabular.Open db₁ →
      transact db₁ changes = (.ok (), db₂) → steady db₂)
    (hagain : ∀ {db₁ db₂ db₃ changes}, steady db₁ → steady db₂ → Tabular.Open db₁ →
      Tabular.Open db₂ → transact db₁ changes = (.ok (), db₃) →
      ∃ db₄, transact db₂ changes = (.ok (), db₄))
    (s : Side) : ∃ db', InTurn db wishes s db' := by
  obtain ⟨t, between, existing, horder⟩ := Race.serial hapart hok
  obtain ⟨e, hopen, hfirst, hbetween, hplans⟩ := horder.successive
  have hmid := hplans.reads_mid h.distinct (h.own t) (h.customer_ne t)
  have hother := hplans.reads_old h.distinct (h.own t) (h.customer_ne t)
  rcases t.eq_or_eq_other s with rfl | rfl
  · exact ⟨_, between, horder.alone, replaced_iff.2 ⟨existing, hbetween, hmid, horder.planned⟩⟩
  · -- the other order: the second plan is carried out first
    have hkept := hkeeps hsteady hopen hfirst
    obtain ⟨db₁, h₁⟩ := hagain hkept hsteady hbetween hopen horder.planned
    obtain ⟨hrows₁, hopen₁⟩ := transact_ok hopen h₁
    obtain ⟨db₂, h₂⟩ := hagain hsteady (hkeeps hsteady hopen h₁) hopen hopen₁ hfirst
    have hread : Reads (wishes t.other.other).customer (Tabular.rows db₁) e := by
      rw [hrows₁]
      refine h.reads_applied hother ?_
      rw [Side.other_other]
      exact hplans.read
    rw [Side.other_other] at hread
    refine ⟨db₂, db₁, replaced_iff.2 ⟨existing, hopen, hother, h₁⟩, ?_⟩
    rw [Side.other_other]
    exact replaced_iff.2 ⟨e, hopen₁, hread, h₂⟩

end Registries

/-! ### Databases that carry out again what they have carried out -/

namespace Store.Memory

/-- A database in memory in which the same steps fail. -/
def SameFailures (m m' : Memory) : Prop :=
  m'.beginFailure = m.beginFailure ∧ m'.failure = m.failure ∧ m'.commitFailure = m.commitFailure

theorem sameFailures_transact {m m₁ m₂ : Memory} {changes : List Change} (h : m.SameFailures m₁)
    (htransact : transact m₁ changes = (.ok (), m₂)) : m.SameFailures m₂ := by
  rcases transact_unchanged_or m₁ changes with ⟨text, noted, begun, heq⟩ | heq
  · cases heq.symm.trans htransact
  · cases heq.symm.trans htransact
    exact h

/-- What becomes of a transaction depends on nothing but on what is made to fail. -/
theorem outcome_transact_congr {m m' : Memory} (h : m.SameFailures m') (changes : List Change) :
    (transact m' changes).1 = (transact m changes).1 := by
  obtain ⟨hbegin, hfailure, hcommit⟩ := h
  have hchanges : m'.failureOf = m.failureOf := funext fun c => congrFun hfailure c.statement
  rw [outcome_transact, outcome_transact, hbegin, hchanges, hcommit]

end Store.Memory

namespace Store.Relational

theorem tables_applyChanges {d : Relational} {t : Transaction} {l : List Record}
    (h : d.Holds t l) (changes : List Change) :
    (applyChanges d t changes).2.2.tables = d.tables := by
  induction changes generalizing d t l with
  | nil => rfl
  | cons c changes ih =>
    rw [applyChanges]
    rcases execute_cases h c with ⟨e, t', d', heq, htables⟩ | ⟨n, t', d', heq, htables, hnext⟩
    · rw [show Backend.execute d t c.statement c.params = _ from heq]
      exact htables
    · rw [show Backend.execute d t c.statement c.params = _ from heq]
      exact (ih hnext).trans htables

theorem calm_commit {d d' : Relational} {t t' : Transaction} (h : d.Serves t)
    (htables : d.tables.Unguarded) (hcommit : d.commit t = (.ok (), t', d')) :
    (d'.release t').Calm := by
  cases t with
  | finished => exact h.elim
  | active count before =>
    cases before with
    | none =>
      cases hcommit
      exact h
    | some v =>
      obtain ⟨hwriting, hunguarded⟩ := h
      -- it was this transaction that wrote
      have hreleased : (d.release (.active count (some v))).writing = false := by
        rw [release, unclaim, if_pos hwriting]
        rfl
      have hkept : (d.release (.active count (some v))).tables = d.tables := (release_eq d _).1
      rw [commit] at hcommit
      split at hcommit
      · cases hcommit
        exact ⟨hreleased, hkept ▸ htables⟩
      · split at hcommit
        · cases hcommit
          exact ⟨hreleased, hunguarded⟩
        · cases hcommit

/-- A calm database is calm after a transaction. -/
theorem calm_transact {d d' : Relational} {changes : List Change} (hopen : d.Open)
    (hcalm : d.Calm) (h : transact d changes = (.ok (), d')) : d'.Calm := by
  obtain ⟨t₁, d₁, hbegin, hserves⟩ := begin_calm hopen hcalm
  have htables : d₁.tables = d.tables := by
    rcases begin_cases d with ⟨f, heq⟩ | ⟨count, d₂, heq, htables, -⟩
    · cases heq.symm.trans hbegin
    · cases heq.symm.trans hbegin
      exact htables
  change Backend.begin d = (.ok t₁, d₁) at hbegin
  obtain ⟨-, hheld⟩ := Tabular.begin_ok hopen hbegin
  obtain ⟨t₂, d₂, hchanges, hserves₂⟩ := applyChanges_calm hheld hserves changes
  have hkept := tables_applyChanges hheld changes
  rw [hchanges, htables] at hkept
  rw [transact, hbegin] at h
  simp only [hchanges] at h
  rcases hcommit : Backend.commit d₂ t₂ with ⟨outcome, t₃, d₃⟩
  rw [hcommit] at h
  cases h
  exact calm_commit hserves₂ (hkept ▸ hcalm.2) hcommit

end Store.Relational

/-! ### Two customer realms in either kind of database -/

/-- Two replacements for different customer realms overlap and succeed.  In either kind of database
they come out as in turn, and unless a relational one is guarded or written by others they succeed
in turn in either order. -/
theorem overlapping_two_customers :
    (∀ (m : Memory) (wishes : Side → Wish) (schedule : List Side),
      Strangers m.contextKeys wishes → (Race.start m wishes).Apart schedule →
      (∀ s, ((Race.start m wishes).run schedule).calls s = .finished (.ok ())) →
      Untangled m wishes ((Race.start m wishes).run schedule).database ∧
        ∀ s, ∃ m', InTurn m wishes s m') ∧
    ∀ (d : Relational) (wishes : Side → Wish) (schedule : List Side),
      Strangers d.keyRows wishes → (Race.start d wishes).Apart schedule →
      (∀ s, ((Race.start d wishes).run schedule).calls s = .finished (.ok ())) →
      Untangled d wishes ((Race.start d wishes).run schedule).database ∧
        (d.Calm → ∀ s, ∃ d', InTurn d wishes s d') := by
  constructor
  · intro m wishes schedule h hapart hok
    refine ⟨untangled h hapart hok, exists_inTurn h hapart hok m.SameFailures ⟨rfl, rfl, rfl⟩
      (fun hsame _ => Memory.sameFailures_transact hsame) ?_⟩
    -- what succeeds does so again
    intro m₁ m₂ m₃ changes h₁ h₂ _ _ htransact
    have hsame := (Memory.outcome_transact_congr h₂ changes).trans
      (Memory.outcome_transact_congr h₁ changes).symm
    rw [htransact] at hsame
    exact ⟨(transact m₂ changes).2, Prod.ext hsame rfl⟩
  · intro d wishes schedule h hapart hok
    refine ⟨untangled h hapart hok, fun hcalm => exists_inTurn h hapart hok Relational.Calm hcalm
      (fun hcalm hopen => Relational.calm_transact hopen hcalm) ?_⟩
    intro d₁ d₂ d₃ changes _ hcalm₂ _ hopen₂ _
    exact transact_calm hopen₂ hcalm₂ changes

/-- A key of one customer realm goes and one comes, while one of another customer realm changes and
one comes; both calls read before either of them begins its transaction. -/
theorem overlapping_two_customers_both_ways :
    let old := [bareKey "A" "old" "acme", bareKey "C" "old" "other"]
    let wishes : Side → Wish
      | .first => ⟨"acme", [bareKey "B" "new" "acme"]⟩
      | .second => ⟨"other", [bareKey "C" "new" "other", bareKey "D" "new" "other"]⟩
    let schedule : List Side := [.first, .second] ++ .replicate 4 .first ++ .replicate 4 .second
    (Untangled (Memory.storing old) wishes
        ((Race.start (Memory.storing old) wishes).run schedule).database ∧
      ∀ s, ∃ m', InTurn (Memory.storing old) wishes s m') ∧
    Untangled (Relational.storing old) wishes
        ((Race.start (Relational.storing old) wishes).run schedule).database ∧
      ∀ s, ∃ d', InTurn (Relational.storing old) wishes s d' := by
  intro old wishes schedule
  have hown {ρ : Type} [KeyRow ρ] : ∀ s, (wishes s).Own (old.map ofKey : List ρ) := by
    intro s
    cases s <;> exact own_of_keys (by decide) (by decide)
  have hstrangers {ρ : Type} [KeyRow ρ] : Strangers (old.map ofKey : List ρ) wishes :=
    ⟨distinctIds_ofKeys (by decide), by decide, hown, by decide⟩
  constructor
  · refine overlapping_two_customers.1 (Memory.storing old) wishes schedule hstrangers
      (by decide +kernel) (Race.succeeded (by decide +kernel))
  · have hok : ∀ s, ((Race.start (Relational.storing old) wishes).run schedule).calls s =
        .finished (.ok ()) :=
      Race.succeeded (by decide +kernel)
    have h := overlapping_two_customers.2 (Relational.storing old) wishes schedule hstrangers
      (by decide +kernel) hok
    exact ⟨h.1, h.2 (Relational.calm_storing old)⟩

/-- Of two keys with one identifier only the last is read. -/
theorem overlapping_repeated_identifier :
    let wishes : Side → Wish
      | .first => ⟨"acme", [bareKey "A" "first" "acme", bareKey "A" "last" "acme"]⟩
      | .second => ⟨"other", [bareKey "B" "new" "other"]⟩
    let schedule : List Side := [.first, .second] ++ .replicate 4 .first ++ .replicate 3 .second
    let race := Race.start Memory.empty wishes
    Strangers Memory.empty.contextKeys wishes ∧ race.Apart schedule ∧
      (∀ s, (race.run schedule).calls s = .finished (.ok ())) ∧
      ¬ ∃ keys, (Registry.ofDatabase (race.run schedule).database).contextKeys "acme" = .ok keys ∧
        keys.Perm (wishes .first).wanted := by
  intro wishes schedule race
  have hown : ∀ s, (wishes s).Own (([] : List ContextKey).map ofKey : List Row) := by
    intro s
    cases s <;> exact own_of_keys (by decide) (by decide)
  have hstrangers : Strangers Memory.empty.contextKeys wishes :=
    ⟨List.nodup_nil, by decide, hown, by decide⟩
  have hapart : race.Apart schedule := by decide +kernel
  have hok : ∀ s, (race.run schedule).calls s = .finished (.ok ()) :=
    Race.succeeded (by decide +kernel)
  refine ⟨hstrangers, hapart, hok, ?_⟩
  rintro ⟨keys, hread, hperm⟩
  obtain ⟨keys', hread', hlast⟩ := (untangled hstrangers hapart hok).read .first
  cases hread.symm.trans hread'
  have hlength := (hperm.symm.trans hlast).length_eq
  exact absurd hlength (by decide)

end RealmRegistry
