/-
Two replacements that overlap.

Each of two calls reads the stored keys outside its transaction and makes its changes in one.  A
schedule says whose step comes next.  If the transactions do not overlap and both calls succeed,
the changes come one after the other (`Race.serial`): the call that ends first does what it does
alone, and the other one carries out its plan on what came of that.  What is left of the overlap is
the table that this plan goes by, which is the old one if it was read before the first call ended.

* `Race`, `Race.run` — two calls on one database, and their steps by a schedule;
* `Race.Before`, `Race.Before.step` — what holds until one of them has ended;
* `Race.finish_run` — what holds from then on;
* `Race.serial` — how two calls come out that both succeed.
-/
import RealmRegistry.Proofs.Registry.Attempt

namespace RealmRegistry

open Store KeyRow

/-! ### Calls -/

/-- One of two calls. -/
inductive Side where
  | first
  | second
deriving DecidableEq

namespace Side

/-- The other one. -/
def other : Side → Side
  | first => second
  | second => first

@[simp] theorem other_other (s : Side) : s.other.other = s := by cases s <;> rfl

theorem other_ne (s : Side) : s.other ≠ s := by cases s <;> decide

theorem eq_or_eq_other (s t : Side) : t = s ∨ t = s.other := by cases s <;> cases t <;> decide

theorem forall_iff {p : Side → Prop} : (∀ s, p s) ↔ p first ∧ p second := by
  constructor
  · intro h
    exact ⟨h first, h second⟩
  · rintro ⟨hfirst, hsecond⟩ (_ | _)
    · exact hfirst
    · exact hsecond

instance instDecidableForall {p : Side → Prop} [DecidablePred p] : Decidable (∀ s, p s) :=
  decidable_of_iff _ forall_iff.symm

end Side

/-- The keys that a customer realm is to have. -/
structure Wish where
  customer : String
  wanted : List ContextKey

namespace Call

variable {σ τ : Type} [Backend σ τ]

/-- Whether a call has read the stored keys. -/
def hasRead : Call τ → Bool
  | reading _ _ => false
  | _ => true

/-- Whether a call is within its transaction. -/
def inTransaction : Call τ → Bool
  | changing _ _ => true
  | _ => false

/-- Whether a call has come to its end. -/
def isOver : Call τ → Bool
  | finished _ => true
  | _ => false

/-- Whether a call has succeeded. -/
def hasSucceeded : Call τ → Bool
  | finished (.ok _) => true
  | _ => false

omit [Backend σ τ] in
theorem eq_of_hasSucceeded {c : Call τ} (h : c.hasSucceeded = true) : c = finished (.ok ()) := by
  cases c with
  | finished outcome =>
    cases outcome with
    | ok _ => rfl
    | error e => cases h
  | _ => cases h

theorem isOver_step (db : σ) {c : Call τ} (h : c.isOver = true) : (c.step db).1.isOver = true := by
  cases c with
  | finished outcome => rfl
  | reading _ _ => cases h
  | opening _ => cases h
  | changing _ _ => cases h

theorem hasRead_step (db : σ) {c : Call τ} (h : c.hasRead = true) :
    (c.step db).1.hasRead = true := by
  cases c with
  | reading _ _ => cases h
  | finished outcome => rfl
  | opening changes =>
    rw [step]
    rcases Backend.begin db with ⟨e | t, db'⟩ <;> rfl
  | changing t changes =>
    cases changes with
    | nil => rfl
    | cons c r =>
      rw [step]
      rcases Backend.execute db t c.statement c.params with ⟨e | n, t', db'⟩ <;> rfl

end Call

/-! ### Races -/

/-- Two calls on one database. -/
structure Race (σ τ : Type) where
  database : σ
  calls : Side → Call τ

namespace Race

variable {σ τ : Type} [Backend σ τ]

/-- Two replacements that have not begun. -/
def start (db : σ) (wishes : Side → Wish) : Race σ τ :=
  ⟨db, fun s => .reading (wishes s).customer (wishes s).wanted⟩

/-- The next step of one of the calls. -/
def step (r : Race σ τ) (s : Side) : Race σ τ where
  database := ((r.calls s).step r.database).2
  calls t := if t = s then ((r.calls s).step r.database).1 else r.calls t

/-- Steps in the order of a schedule. -/
def run (r : Race σ τ) (schedule : List Side) : Race σ τ := schedule.foldl step r

/-- All states on the way through a schedule, both ends included. -/
def moments (r : Race σ τ) : List Side → List (Race σ τ)
  | [] => [r]
  | s :: rest => r :: (r.step s).moments rest

/-- Whether both calls are within their transactions. -/
def overlaps (r : Race σ τ) : Bool :=
  (r.calls .first).inTransaction && (r.calls .second).inTransaction

/-- The transactions do not overlap. -/
def Apart (r : Race σ τ) (schedule : List Side) : Prop :=
  ∀ m ∈ r.moments schedule, m.overlaps = false

/-- A call came so far before the other one ended. -/
def Ahead (r : Race σ τ) (schedule : List Side) (s : Side) (reached : Call τ → Bool) : Prop :=
  ∃ m ∈ r.moments schedule, reached (m.calls s) = true ∧ (m.calls s.other).isOver = false

/-- A call ended before the other one. -/
def EndsFirst (r : Race σ τ) (schedule : List Side) (s : Side) : Prop :=
  r.Ahead schedule s Call.isOver

/-- A call had read the stored keys before the other one ended. -/
def ReadsEarly (r : Race σ τ) (schedule : List Side) (s : Side) : Prop :=
  r.Ahead schedule s Call.hasRead

instance instDecidableApart (r : Race σ τ) (schedule : List Side) : Decidable (r.Apart schedule) :=
  inferInstanceAs (Decidable (∀ m ∈ r.moments schedule, m.overlaps = false))

instance instDecidableAhead (r : Race σ τ) (schedule : List Side) (s : Side)
    (reached : Call τ → Bool) : Decidable (r.Ahead schedule s reached) :=
  inferInstanceAs (Decidable (∃ m ∈ r.moments schedule,
    reached (m.calls s) = true ∧ (m.calls s.other).isOver = false))

instance instDecidableEndsFirst (r : Race σ τ) (schedule : List Side) (s : Side) :
    Decidable (r.EndsFirst schedule s) :=
  instDecidableAhead r schedule s Call.isOver

instance instDecidableReadsEarly (r : Race σ τ) (schedule : List Side) (s : Side) :
    Decidable (r.ReadsEarly schedule s) :=
  instDecidableAhead r schedule s Call.hasRead

omit [Backend σ τ] in
theorem succeeded {r : Race σ τ} (h : ∀ s, (r.calls s).hasSucceeded = true) :
    ∀ s, r.calls s = .finished (.ok ()) :=
  fun s => Call.eq_of_hasSucceeded (h s)

/-! ### Steps and moments -/

@[simp] theorem step_self (r : Race σ τ) (s : Side) :
    (r.step s).calls s = ((r.calls s).step r.database).1 :=
  if_pos rfl

@[simp] theorem step_other (r : Race σ τ) (s : Side) : (r.step s).calls s.other = r.calls s.other :=
  if_neg s.other_ne

theorem step_of {r : Race σ τ} {s : Side} (c : Call τ) (db : σ)
    (h : (r.calls s).step r.database = (c, db)) :
    (r.step s).calls s = c ∧ (r.step s).database = db := by
  rw [step_self, step, h]
  exact ⟨rfl, rfl⟩

omit [Backend σ τ] in
theorem other_outside {r : Race σ τ} (h : r.overlaps = false) {s : Side}
    (hs : (r.calls s).inTransaction = true) : (r.calls s.other).inTransaction = false := by
  rw [overlaps] at h
  cases s with
  | first =>
    rw [hs, Bool.true_and] at h
    exact h
  | second =>
    rw [hs, Bool.and_true] at h
    exact h

@[simp] theorem run_append (r : Race σ τ) (l l' : List Side) : r.run (l ++ l') = (r.run l).run l' :=
  List.foldl_append

theorem self_mem_moments (r : Race σ τ) (l : List Side) : r ∈ r.moments l := by
  cases l <;> exact List.mem_cons_self

theorem mem_moments_append {r m : Race σ τ} {l l' : List Side} {s : Side} :
    m ∈ r.moments (l ++ s :: l') ↔ m ∈ r.moments l ∨ m ∈ ((r.run l).step s).moments l' := by
  induction l generalizing r with
  | nil =>
    show m ∈ r :: (r.step s).moments l' ↔ m ∈ [r] ∨ _
    rw [List.mem_cons, List.mem_singleton]
    rfl
  | cons t l ih =>
    show m ∈ r :: (r.step t).moments (l ++ s :: l') ↔ m ∈ r :: (r.step t).moments l ∨ _
    rw [List.mem_cons, List.mem_cons, ih, or_assoc]
    rfl

theorem run_mem_moments (r : Race σ τ) (l l' : List Side) (s : Side) :
    r.run l ∈ r.moments (l ++ s :: l') := by
  induction l generalizing r with
  | nil => exact List.mem_cons_self
  | cons t l ih => exact List.mem_cons_of_mem _ (ih (r.step t))

section Lasting

variable {reached : Call τ → Bool}
  (hlasts : ∀ (db : σ) (c : Call τ), reached c = true → reached (c.step db).1 = true)

include hlasts

theorem step_lasts {r : Race σ τ} {t : Side} (h : reached (r.calls t) = true) (s : Side) :
    reached ((r.step s).calls t) = true := by
  rcases s.eq_or_eq_other t with rfl | rfl
  · rw [step_self]
    exact hlasts _ _ h
  · rw [step_other]
    exact h

/-- What a call has reached in the beginning it has reached at every moment. -/
theorem moments_last {r : Race σ τ} {t : Side} (h : reached (r.calls t) = true)
    {l : List Side} {m : Race σ τ} (hm : m ∈ r.moments l) : reached (m.calls t) = true := by
  induction l generalizing r with
  | nil => rwa [List.mem_singleton.1 hm]
  | cons s l ih =>
    rcases List.mem_cons.1 hm with rfl | hm
    · exact h
    · exact ih (step_lasts hlasts h s) hm

/-- What a call has reached at some moment it has reached in the end. -/
theorem run_lasts {r m : Race σ τ} {t : Side} {l : List Side} (hm : m ∈ r.moments l)
    (h : reached (m.calls t) = true) : reached ((r.run l).calls t) = true := by
  induction l generalizing r m with
  | nil => rwa [← List.mem_singleton.1 hm]
  | cons s l ih =>
    rcases List.mem_cons.1 hm with rfl | hm
    · exact ih (self_mem_moments _ l) (step_lasts hlasts h s)
    · exact ih hm h

/-- What the other call has reached before a call ends is what it has reached at the last moment
before. -/
theorem ahead_iff {r : Race σ τ} {l l' : List Side} {s : Side}
    (hbefore : ((r.run l).calls s).isOver = false)
    (hover : (((r.run l).step s).calls s).isOver = true) :
    r.Ahead (l ++ s :: l') s.other reached ↔ reached ((r.run l).calls s.other) = true := by
  constructor
  · rintro ⟨m, hm, hreached, hnot⟩
    rw [Side.other_other] at hnot
    rcases mem_moments_append.1 hm with hm | hm
    · exact run_lasts hlasts hm hreached
    · rw [moments_last (fun db _ => Call.isOver_step db) hover hm] at hnot
      cases hnot
  · intro hreached
    refine ⟨r.run l, run_mem_moments r l l' s, hreached, ?_⟩
    rw [Side.other_other]
    exact hbefore

end Lasting

/-! ### After one call has ended -/

theorem calls_of_finished {r : Race σ τ} {s : Side} {outcome : Except Fault Unit}
    (h : r.calls s = .finished outcome) (l : List Side) :
    (r.run l).calls s = .finished outcome := by
  induction l generalizing r with
  | nil => exact h
  | cons t l ih =>
    refine ih (r := r.step t) ?_
    rcases t.eq_or_eq_other s with rfl | rfl
    · rw [step_self, h]
      rfl
    · rw [step_other]
      exact h

/-- Once a call has ended the other one comes to what it comes to alone. -/
theorem finish_run {r : Race σ τ} {s : Side} {outcome : Except Fault Unit}
    (h : r.calls s = .finished outcome) (l : List Side) :
    ((r.run l).calls s.other).finish (r.run l).database =
      (r.calls s.other).finish r.database := by
  induction l generalizing r with
  | nil => rfl
  | cons t l ih =>
    -- the call that has ended takes no steps, and the other one steps towards its own end
    refine (ih (r := r.step t) (calls_of_finished h [t])).trans ?_
    rcases s.eq_or_eq_other t with rfl | rfl
    · rw [step_other, step, h]
      rfl
    · rw [step_self]
      exact Call.finish_step _ _

end Race

/-! ### Before a call has ended -/

section Tables

variable {σ τ ρ : Type} [Backend σ τ] [KeyRow ρ] [Tabular σ τ ρ]

/-- How a call stands that has not ended: what it has read is what the database held in the
beginning, and its transaction comes to what it comes to alone. -/
def Call.Stands (w : Wish) (db₀ db : σ) : Call τ → Prop
  | .reading customer wanted => customer = w.customer ∧ wanted = w.wanted
  | .opening changes => ∃ existing,
      (Registry.ofDatabase db₀).contextKeys w.customer = .ok existing ∧
        changes = plan existing w.wanted
  | .changing t changes => (∃ l, Tabular.Holds db t l) ∧ ∃ existing,
      (Registry.ofDatabase db₀).contextKeys w.customer = .ok existing ∧
        conclude db t changes = transact db₀ (plan existing w.wanted)
  | .finished _ => False

/-- Outside its transaction a call does not care about the database. -/
theorem Call.Stands.of_outside {w : Wish} {db₀ db db' : σ} {c : Call τ} (h : c.Stands w db₀ db)
    (hc : c.inTransaction = false) : c.Stands w db₀ db' := by
  cases c with
  | reading _ _ => exact h
  | opening _ => exact h
  | changing _ _ => cases hc
  | finished _ => exact h.elim

theorem Call.Stands.not_isOver {w : Wish} {db₀ db : σ} {c : Call τ} (h : c.Stands w db₀ db) :
    c.isOver = false := by
  cases c with
  | finished outcome => exact h.elim
  | _ => rfl

theorem Call.Stands.open_of_inTransaction {w : Wish} {db₀ db : σ} {c : Call τ}
    (h : c.Stands w db₀ db) (hc : c.inTransaction = true) : Tabular.Open db₀ := by
  cases c with
  | changing t changes =>
    obtain ⟨-, existing, hread, -⟩ := h
    exact (contextKeys_ok_iff.1 hread).1
  | reading _ _ => cases hc
  | opening _ => cases hc
  | finished _ => cases hc

/-- Outside its transaction a call that succeeds alone carries out its plan: for what it has read,
or else for what it reads then. -/
theorem Call.Stands.planned {w : Wish} {db₀ db₁ db db' : σ} {c : Call τ} (h : c.Stands w db₀ db₁)
    (hc : c.inTransaction = false) (hfinish : c.finish db = (.ok (), db')) :
    ∃ existing,
      (c.hasRead = true → (Registry.ofDatabase db₀).contextKeys w.customer = .ok existing) ∧
      (c.hasRead = false → (Registry.ofDatabase db).contextKeys w.customer = .ok existing) ∧
      transact db (plan existing w.wanted) = (.ok (), db') := by
  cases c with
  | reading customer wanted =>
    obtain ⟨rfl, rfl⟩ := h
    rw [Call.finish, Registry.replaceContextKeys] at hfinish
    cases hread : (Registry.ofDatabase db).contextKeys w.customer with
    | error e =>
      rw [hread] at hfinish
      cases hfinish
    | ok existing =>
      rw [hread] at hfinish
      exact ⟨existing, fun h => absurd h Bool.false_ne_true, fun _ => rfl, hfinish⟩
  | opening changes =>
    obtain ⟨existing, hread, rfl⟩ := h
    exact ⟨existing, fun _ => hread, fun h => absurd h.symm Bool.false_ne_true, hfinish⟩
  | changing t changes => cases hc
  | finished outcome => exact h.elim

namespace Race

/-- As long as neither call has ended, the rows are those of the beginning, and outside of
transactions the whole database is. -/
structure Before (db₀ : σ) (wishes : Side → Wish) (r : Race σ τ) : Prop where
  rows : Tabular.rows r.database = Tabular.rows db₀
  quiet : (∀ s, (r.calls s).inTransaction = false) → r.database = db₀
  stands : ∀ s, (r.calls s).Stands (wishes s) db₀ r.database

/-- The next step of a call is a commit of what it comes to alone. -/
structure Commits (db₀ : σ) (w : Wish) (r : Race σ τ) (s : Side) : Prop where
  within : (r.calls s).inTransaction = true
  ended : (r.step s).calls s = .finished (.ok ())
  alone : (Registry.ofDatabase db₀).replaceContextKeys w.customer w.wanted =
    (.ok (), .ofDatabase (r.step s).database)

theorem Commits.not_isOver {db₀ : σ} {w : Wish} {r : Race σ τ} {s : Side}
    (h : Commits db₀ w r s) : (r.calls s).isOver = false := by
  have hwithin := h.within
  cases hcall : r.calls s with
  | finished outcome =>
    rw [hcall] at hwithin
    cases hwithin
  | _ => rfl

theorem before_start (db : σ) (wishes : Side → Wish) :
    Before db wishes (start db wishes : Race σ τ) where
  rows := rfl
  quiet _ := rfl
  stands _ := ⟨rfl, rfl⟩

variable {db₀ : σ} {wishes : Side → Wish} {r : Race σ τ}

theorem Before.quiet_of (h : Before db₀ wishes r) {s : Side}
    (hself : (r.calls s).inTransaction = false)
    (hother : (r.calls s.other).inTransaction = false) : r.database = db₀ :=
  h.quiet fun t => by
    rcases s.eq_or_eq_other t with rfl | rfl
    · exact hself
    · exact hother

/-- A step outside of transactions that leaves the database. -/
theorem Before.of_same (h : Before db₀ wishes r) {s : Side}
    (hdb : (r.step s).database = r.database) (hcall : (r.calls s).inTransaction = false)
    (hself : ((r.step s).calls s).Stands (wishes s) db₀ r.database) :
    Before db₀ wishes (r.step s) where
  rows := by rw [hdb, h.rows]
  quiet hout := by
    rw [hdb]
    refine h.quiet fun t => ?_
    rcases s.eq_or_eq_other t with rfl | rfl
    · exact hcall
    · rw [← step_other]
      exact hout _
  stands t := by
    rw [hdb]
    rcases s.eq_or_eq_other t with rfl | rfl
    · exact hself
    · rw [step_other]
      exact h.stands _

/-- A step in a transaction. -/
theorem Before.of_inTransaction (h : Before db₀ wishes r) {s : Side}
    (hrows : Tabular.rows (r.step s).database = Tabular.rows r.database)
    (hin : ((r.step s).calls s).inTransaction = true)
    (hother : (r.calls s.other).inTransaction = false)
    (hself : ((r.step s).calls s).Stands (wishes s) db₀ (r.step s).database) :
    Before db₀ wishes (r.step s) where
  rows := hrows.trans h.rows
  quiet hout := absurd ((hout s).symm.trans hin) Bool.false_ne_true
  stands t := by
    rcases s.eq_or_eq_other t with rfl | rfl
    · exact hself
    · rw [step_other]
      exact (h.stands _).of_outside hother

theorem Before.step_reading (h : Before db₀ wishes r) {s : Side} {customer : String}
    {wanted : List ContextKey} (hcall : r.calls s = .reading customer wanted) :
    (∃ e, (r.step s).calls s = .finished (.error e)) ∨ Before db₀ wishes (r.step s) := by
  have hstands := h.stands s
  rw [hcall] at hstands
  obtain ⟨rfl, rfl⟩ := hstands
  cases hread : (Registry.ofDatabase r.database).contextKeys (wishes s).customer with
  | error e =>
    refine .inl ⟨e, (step_of _ r.database ?_).1⟩
    rw [hcall, Call.step, hread]
  | ok existing =>
    obtain ⟨hself, hdb⟩ := step_of (r := r) (s := s)
      (.opening (plan existing (wishes s).wanted)) r.database (by rw [hcall, Call.step, hread])
    have hout : (r.calls s).inTransaction = false := by rw [hcall]; rfl
    obtain ⟨hopen, hkeys⟩ := contextKeys_ok_iff.1 hread
    -- the transaction of the other call, if there is one, has not changed the rows
    have hopen₀ : Tabular.Open db₀ := by
      cases hother : (r.calls s.other).inTransaction with
      | true => exact (h.stands s.other).open_of_inTransaction hother
      | false =>
        rw [← h.quiet_of hout hother]
        exact hopen
    refine .inr (h.of_same hdb hout ?_)
    rw [hself]
    refine ⟨existing, contextKeys_ok_iff.2 ⟨hopen₀, ?_⟩, rfl⟩
    rw [Registry.ofDatabase, ← h.rows]
    exact hkeys

theorem Before.step_opening (h : Before db₀ wishes r) {s : Side} {changes : List Change}
    (hcall : r.calls s = .opening changes)
    (hapart : ((r.step s).calls s).inTransaction = true →
      (r.calls s.other).inTransaction = false) :
    (∃ e, (r.step s).calls s = .finished (.error e)) ∨ Before db₀ wishes (r.step s) := by
  have hstands := h.stands s
  have hfinish := Call.finish_step r.database (r.calls s)
  rw [hcall] at hstands hfinish
  obtain ⟨existing, hread, rfl⟩ := hstands
  rcases hbegin : Backend.begin r.database with ⟨e | t, db⟩
  · refine .inl ⟨e, (step_of _ db ?_).1⟩
    rw [hcall, Call.step, hbegin]
  obtain ⟨hself, hdb⟩ := step_of (r := r) (s := s)
    (.changing t (plan existing (wishes s).wanted)) db (by rw [hcall, Call.step, hbegin])
  rw [Call.step, hbegin] at hfinish
  -- the transaction begins, so the other call is not within its own
  have hin : ((r.step s).calls s).inTransaction = true := by rw [hself]; rfl
  have hother := hapart hin
  have hsame : r.database = db₀ := h.quiet_of (by rw [hcall]; rfl) hother
  rw [hsame] at hbegin hfinish
  obtain ⟨hrows, hheld⟩ := Tabular.begin_ok (contextKeys_ok_iff.1 hread).1 hbegin
  refine .inr (h.of_inTransaction ?_ hin hother ?_)
  · rw [hdb, hsame]
    exact hrows
  · rw [hself, hdb]
    exact ⟨⟨_, hheld⟩, existing, hread, hfinish⟩

theorem Before.step_changing (h : Before db₀ wishes r) {s : Side} {t : τ} {changes : List Change}
    (hcall : r.calls s = .changing t changes)
    (hother : (r.calls s.other).inTransaction = false) :
    (∃ e, (r.step s).calls s = .finished (.error e)) ∨ Commits db₀ (wishes s) r s ∨
      Before db₀ wishes (r.step s) := by
  have hstands := h.stands s
  have hfinish := Call.finish_step r.database (r.calls s)
  rw [hcall] at hstands hfinish
  obtain ⟨⟨l, hheld⟩, existing, hread, hconclude⟩ := hstands
  cases changes with
  | nil =>
    rcases hcommit : Backend.commit r.database t with ⟨e | _, t', db⟩
    · refine .inl ⟨e, (step_of _ (Backend.release db t') ?_).1⟩
      rw [hcall, Call.step, hcommit]
    obtain ⟨hself, hdb⟩ := step_of (r := r) (s := s) (.finished (.ok ()))
      (Backend.release db t') (by rw [hcall, Call.step, hcommit])
    rw [Call.step, hcommit] at hfinish
    -- the transaction was going to come to what it comes to on the old database
    have htransact : transact db₀ (plan existing (wishes s).wanted) =
        (.ok (), (r.step s).database) := by
      rw [← hconclude, hdb]
      exact hfinish.symm
    refine .inr (.inl ⟨by rw [hcall]; rfl, hself, ?_⟩)
    rw [Registry.replaceContextKeys, hread]
    simp only [Registry.ofDatabase, htransact]
  | cons c rest =>
    rcases hexecute : Backend.execute r.database t c.statement c.params with ⟨e | n, t', db⟩
    · refine .inl ⟨e, (step_of _ (Backend.release db t') ?_).1⟩
      rw [hcall, Call.step, hexecute]
    obtain ⟨hself, hdb⟩ := step_of (r := r) (s := s) (.changing t' rest) db
      (by rw [hcall, Call.step, hexecute])
    rw [Call.step, hexecute] at hfinish
    obtain ⟨hrows, hnext⟩ := Tabular.execute_ok hheld hexecute
    refine .inr (.inr (h.of_inTransaction (by rw [hdb, hrows]) (by rw [hself]; rfl) hother ?_))
    rw [hself, hdb]
    exact ⟨⟨_, hnext⟩, existing, hread, hfinish.trans hconclude⟩

/-- As long as neither call has ended, a step fails, or it commits, or neither has ended after
it. -/
theorem Before.step (h : Before db₀ wishes r) (s : Side) (hnow : r.overlaps = false)
    (hnext : (r.step s).overlaps = false) :
    (∃ e, (r.step s).calls s = .finished (.error e)) ∨ Commits db₀ (wishes s) r s ∨
      Before db₀ wishes (r.step s) := by
  cases hcall : r.calls s with
  | reading customer wanted => exact (h.step_reading hcall).imp_right .inr
  | opening changes =>
    refine (h.step_opening hcall fun hin => ?_).imp_right .inr
    rw [← step_other]
    exact other_outside hnext hin
  | changing t changes =>
    exact h.step_changing hcall (other_outside hnow (by rw [hcall]; rfl))
  | finished outcome =>
    have hstands := h.stands s
    rw [hcall] at hstands
    exact hstands.elim

/-- If both calls succeed, one of them commits while neither has ended. -/
theorem Before.exists_commit (h : Before db₀ wishes r) {l : List Side} (hapart : r.Apart l)
    (hok : ∀ s, (r.run l).calls s = .finished (.ok ())) :
    ∃ s l₁ l₂, l = l₁ ++ s :: l₂ ∧ Before db₀ wishes (r.run l₁) ∧
      Commits db₀ (wishes s) (r.run l₁) s := by
  -- along the schedule: what holds before a call has ended carries on until one commits
  induction l generalizing r with
  | nil =>
    have hstands := h.stands .first
    rw [show r.calls .first = .finished (.ok ()) from hok .first] at hstands
    exact hstands.elim
  | cons s l ih =>
    have hrest : (r.step s).Apart l := fun m hm => hapart m (List.mem_cons_of_mem r hm)
    rcases h.step s (hapart r List.mem_cons_self) (hrest _ (self_mem_moments _ l)) with
      ⟨e, herror⟩ | hcommits | hnext
    · -- a call that has failed has failed in the end
      have hend := calls_of_finished herror l
      cases hend.symm.trans (hok s)
    · exact ⟨s, [], l, rfl, h, hcommits⟩
    · obtain ⟨s', l₁, l₂, rfl, hfound⟩ := ih hnext hrest hok
      exact ⟨s', s :: l₁, l₂, rfl, hfound⟩

end Race

end Tables

/-! ### How a race comes out -/

namespace Race

variable {σ τ : Type} [Backend σ τ] {db : σ} {wishes : Side → Wish} {schedule : List Side}

/-- One call ends first, as it does alone.  The other one carries out its plan on what came of
that; it goes by what was there in the beginning if it had read that before the first one ended. -/
structure InOrder (db : σ) (wishes : Side → Wish) (schedule : List Side) (s : Side) (between : σ)
    (existing : List ContextKey) : Prop where
  first : (start db wishes).EndsFirst schedule s
  last : ¬ (start db wishes).EndsFirst schedule s.other
  alone : (Registry.ofDatabase db).replaceContextKeys (wishes s).customer (wishes s).wanted =
    (.ok (), .ofDatabase between)
  early : (start db wishes).ReadsEarly schedule s.other →
    (Registry.ofDatabase db).contextKeys (wishes s.other).customer = .ok existing
  late : ¬ (start db wishes).ReadsEarly schedule s.other →
    (Registry.ofDatabase between).contextKeys (wishes s.other).customer = .ok existing
  planned : transact between (plan existing (wishes s.other).wanted) =
    (.ok (), ((start db wishes).run schedule).database)

/-- Two calls that both succeed, and whose transactions do not overlap, come one after the
other. -/
theorem serial {ρ : Type} [KeyRow ρ] [Tabular σ τ ρ]
    (hapart : (start db wishes).Apart schedule)
    (hok : ∀ s, ((start db wishes).run schedule).calls s = .finished (.ok ())) :
    ∃ s between existing, InOrder db wishes schedule s between existing := by
  obtain ⟨s, l₁, l₂, rfl, hbefore, hcommits⟩ :=
    (before_start db wishes).exists_commit hapart hok
  have hstands := hbefore.stands s.other
  have hahead {reached : Call τ → Bool}
      (hlasts : ∀ (db : σ) (c : Call τ), reached c = true → reached (c.step db).1 = true) :
      (start db wishes).Ahead (l₁ ++ s :: l₂) s.other reached ↔ _ :=
    ahead_iff hlasts hcommits.not_isOver (by rw [hcommits.ended]; rfl)
  have hearly : (start db wishes).ReadsEarly (l₁ ++ s :: l₂) s.other ↔ _ :=
    hahead fun db _ => Call.hasRead_step db
  -- once the first call has ended the other one is alone
  have hfinish := finish_run hcommits.ended l₂
  rw [show (((start db wishes).run l₁).step s).run l₂ = (start db wishes).run (l₁ ++ s :: l₂) from
    (run_append _ l₁ (s :: l₂)).symm, hok s.other, step_other] at hfinish
  have hother := other_outside (hapart _ (run_mem_moments _ l₁ l₂ s)) hcommits.within
  obtain ⟨existing, hread, hunread, hplanned⟩ := hstands.planned hother hfinish.symm
  refine ⟨s, _, existing, ?_, ?_, hcommits.alone, fun hreads => hread (hearly.1 hreads),
    fun hreads => hunread (Bool.eq_false_iff.2 fun h => hreads (hearly.2 h)), hplanned⟩
  · refine ⟨_, mem_moments_append.2 (.inr (self_mem_moments _ l₂)), ?_, ?_⟩
    · rw [hcommits.ended]
      rfl
    · rw [step_other]
      exact hstands.not_isOver
  · rw [EndsFirst, hahead fun db _ => Call.isOver_step db, hstands.not_isOver]
    exact Bool.false_ne_true

end Race

end RealmRegistry
