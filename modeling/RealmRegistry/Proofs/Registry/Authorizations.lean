/-
A scope holds authorizations back, and does nothing else.

Rows are read one by one, and each of them before its action is looked at.  So what a registry
lists is what it would list without a scope, fault or not, less the authorizations whose actions
are in none of the sets that were merged into the scope.

* `readKept_eq_map` — leaving records out while reading, or after reading them all;
* `authorizations_scoped` — what a scope makes of the authorizations of a database.
-/
import RealmRegistry.Proofs.Access.Scope
import RealmRegistry.Proofs.Realm.ContextKey
import RealmRegistry.Store.Memory

namespace RealmRegistry

open Access Store

/-! ### Reading rows -/

section Rows

variable {α : Type} {read : Row → Except Fault α}

/-- Nothing is left out of what is read by leaving records out of it later. -/
theorem readKept_eq_map (keep : α → Bool) (items : List (Except Fault Row)) :
    readKept read keep items =
      (readKept read (fun _ => true) items).map fun l => l.filter keep := by
  induction items with
  | nil => rfl
  | cons item items ih =>
    cases item with
    | error e => rfl
    | ok r =>
      cases hr : read r with
      | error e =>
        simp only [readKept, hr]
        rfl
      | ok a =>
        simp only [readKept, hr, ih]
        cases readKept read (fun _ => true) items with
        | error e => rfl
        | ok l =>
          by_cases ha : keep a = true
          · simp [ha]
          · simp [ha]

/-- A row that cannot be read is a fault, whatever is left out. -/
theorem readKept_broken {keep : α → Bool} {items : List (Except Fault Row)} {r : Row} {e : Fault}
    (hr : .ok r ∈ items) (he : read r = .error e) : ∃ f, readKept read keep items = .error f := by
  induction items with
  | nil => exact absurd hr List.not_mem_nil
  | cons item items ih =>
    cases item with
    | error f => exact ⟨f, rfl⟩
    | ok s =>
      cases hs : read s with
      | error f => exact ⟨f, by simp only [readKept, hs]⟩
      | ok a =>
        -- the row that is broken is a later one
        have hrest : .ok r ∈ items := by
          rcases List.mem_cons.1 hr with heq | hmem
          · cases heq
            cases he.symm.trans hs
          · exact hmem
        obtain ⟨f, hf⟩ := ih hrest
        refine ⟨f, ?_⟩
        simp only [readKept, hs, hf]
        rfl

/-- Of rows that can all be read, those that are left out make no difference. -/
theorem readKept_ok {keep : α → Bool} {seen : Row → Bool} {rows : List Row}
    (h : ∀ r ∈ rows, ∃ a, read r = .ok a ∧ keep a = seen r) :
    readKept read keep (rows.map .ok) =
      .ok ((rows.filter seen).filterMap fun r => (read r).toOption) := by
  induction rows with
  | nil => rfl
  | cons r rows ih =>
    obtain ⟨a, ha, hseen⟩ := h r List.mem_cons_self
    have hrest := ih fun s hs => h s (List.mem_cons_of_mem r hs)
    simp only [List.map_cons, readKept, ha, hrest, hseen]
    by_cases hr : seen r = true
    · simp [Except.toOption, hr, ha]
    · simp [hr]

end Rows

/-! ### Registries with a scope -/

section Registries

variable {σ τ : Type} [Backend σ τ]

/-- A registry with a scope of some sets, into which others are merged one by one. -/
def Registry.scoped (db : σ) (sets later : List (List String)) : Registry σ :=
  later.foldl Registry.restrict ⟨db, Scope.ofActionSets sets⟩

theorem foldl_restrict_eq (later : List (List String)) (r : Registry σ) :
    later.foldl Registry.restrict r = ⟨r.database, later.foldl Scope.restrict r.scope⟩ := by
  induction later generalizing r with
  | nil => rfl
  | cons first later ih =>
    rw [List.foldl_cons, ih]
    rfl

theorem scoped_eq (db : σ) (sets later : List (List String)) :
    Registry.scoped db sets later =
      ⟨db, (sets ++ later).foldl Scope.restrict .unrestricted⟩ := by
  rw [Registry.scoped, foldl_restrict_eq, List.foldl_append]
  rfl

/-- What a registry lists is what is listed without a scope, less what the scope holds back. -/
theorem authorizations_eq_map (db : σ) (scope : Scope) :
    (Registry.mk db scope).authorizations =
      (Registry.ofDatabase db).authorizations.map
        fun l => l.filter fun a => scope.allows a.action :=
  readKept_eq_map (fun a : Authorization => scope.allows a.action) _

theorem authorizations_of_sets (db : σ) {sets later : List (List String)}
    (h : sets ++ later ≠ []) :
    (Registry.scoped db sets later).authorizations =
      (Registry.ofDatabase db).authorizations.map
        fun l => l.filter fun a => inUnion (sets ++ later) a.action := by
  rw [scoped_eq, authorizations_eq_map]
  simp only [allows_foldl_restrict h]

theorem action_of_row {r : Row} {a : Authorization} (h : Authorization.ofRow r = .ok a) :
    r.text? 2 = some a.action := by
  simp only [Authorization.ofRow, bind_eq_ok, ContextKey.required_ok_iff] at h
  obtain ⟨-, -, realm, -, group, -, action, haction, target, -, targetGroup, -, heq⟩ := h
  cases heq
  rw [Row.text?, haction]
  rfl

/-- Whether the action of a row is in one of some sets. -/
def rowInUnion (sets : List (List String)) (r : Row) : Bool :=
  (r.text? 2).any (inUnion sets)

/-- What is listed of rows that can all be read is what is read of those in scope. -/
theorem authorizations_of_rows {db : σ} {sets later : List (List String)} {rows : List Row}
    (hrows : Backend.query db .selectAllAuthorizations [] = rows.map .ok)
    (hread : ∀ r ∈ rows, ∃ a, Authorization.ofRow r = .ok a) (h : sets ++ later ≠ []) :
    (Registry.scoped db sets later).authorizations =
      .ok ((rows.filter (rowInUnion (sets ++ later))).filterMap
        fun r => (ofRow (Authorization.ofRow r)).toOption) := by
  rw [scoped_eq, Registry.authorizations, hrows]
  refine readKept_ok fun r hr => ?_
  obtain ⟨a, ha⟩ := hread r hr
  refine ⟨a, by rw [ha]; rfl, ?_⟩
  rw [allows_foldl_restrict h, rowInUnion, action_of_row ha]
  rfl

end Registries

/-- What the sets that are merged into the scope of a registry do to what it lists. -/
structure ListsInScope {σ τ : Type} [Backend σ τ] (db : σ) (sets later : List (List String)) :
    Prop where
  /-- Without a set all authorizations are listed. -/
  unrestricted : sets ++ later = [] →
    (Registry.scoped db sets later).authorizations = (Registry.ofDatabase db).authorizations
  /-- A fault is the same fault, -/
  failed : ∀ e, (Registry.ofDatabase db).authorizations = .error e →
    (Registry.scoped db sets later).authorizations = .error e
  /-- and otherwise the authorizations whose actions are in a set are listed, in their order. -/
  listed : ∀ l, (Registry.ofDatabase db).authorizations = .ok l → sets ++ later ≠ [] →
    (Registry.scoped db sets later).authorizations =
      .ok (l.filter fun a => inUnion (sets ++ later) a.action)
  /-- Which sets they are makes no difference if the same actions are in them. -/
  merged : ∀ sets' later', (sets' ++ later' = [] ↔ sets ++ later = []) →
    (∀ a, (∃ s ∈ sets' ++ later', a ∈ s) ↔ ∃ s ∈ sets ++ later, a ∈ s) →
    (Registry.scoped db sets' later').authorizations =
      (Registry.scoped db sets later).authorizations
  /-- A row that cannot be read is a fault, whatever its action. -/
  broken : ∀ r e, .ok r ∈ Backend.query db .selectAllAuthorizations [] →
    Authorization.ofRow r = .error e →
    ∃ f, (Registry.scoped db sets later).authorizations = .error f
  /-- Rows whose actions are in no set make no difference if they can be read. -/
  unseen : ∀ (σ' τ' : Type) [Backend σ' τ'] (db' : σ') (rows rows' : List Row),
    Backend.query db .selectAllAuthorizations [] = rows.map .ok →
    Backend.query db' .selectAllAuthorizations [] = rows'.map .ok →
    (∀ r ∈ rows ++ rows', ∃ a, Authorization.ofRow r = .ok a) → sets ++ later ≠ [] →
    rows'.filter (rowInUnion (sets ++ later)) = rows.filter (rowInUnion (sets ++ later)) →
    (Registry.scoped db' sets later).authorizations =
      (Registry.scoped db sets later).authorizations

/-- A scope holds back the authorizations whose actions are in none of its sets, and does nothing
else. -/
theorem authorizations_scoped {σ τ : Type} [Backend σ τ] (db : σ)
    (sets later : List (List String)) : ListsInScope db sets later where
  unrestricted := by
    intro h
    rw [scoped_eq, h]
    rfl
  failed := by
    intro e he
    rw [scoped_eq, authorizations_eq_map, he]
    rfl
  listed := by
    intro l hl h
    rw [authorizations_of_sets db h, hl]
    rfl
  merged := by
    intro sets' later' hempty hunion
    by_cases h : sets ++ later = []
    · rw [scoped_eq, scoped_eq, h, hempty.2 h]
    · have h' : sets' ++ later' ≠ [] := fun hnil => h (hempty.1 hnil)
      have hsame : ∀ a, inUnion (sets' ++ later') a = inUnion (sets ++ later) a := by
        intro a
        rw [Bool.eq_iff_iff, inUnion_iff, inUnion_iff]
        exact hunion a
      rw [authorizations_of_sets db h, authorizations_of_sets db h']
      simp only [hsame]
  broken := by
    intro r e hr he
    rw [scoped_eq]
    exact readKept_broken hr (by rw [he]; rfl)
  unseen := by
    intro σ' τ' _ db' rows rows' hrows hrows' hread h hsame
    have hread₁ := fun r hr => hread r (List.mem_append_left rows' hr)
    have hread₂ := fun r hr => hread r (List.mem_append_right rows hr)
    rw [authorizations_of_rows hrows hread₁ h, authorizations_of_rows hrows' hread₂ h, hsame]

/-- Of three authorizations two are in scope, one by either way of merging; a row with a column too
few is a fault though its action is in no set. -/
theorem authorizations_scoped_both_ways :
    let granted (action : String) : Authorization := ⟨"master", "admins", action, none, some ""⟩
    let row (action : String) : Row := ⟨[some "master", some "admins", some action, none, some ""]⟩
    let db : Memory := { Memory.empty with authorizations := [row "X", row "Y", row "Z"] }
    let torn : Memory := { db with authorizations := [row "X", .ofTexts ["a", "b", "Y"]] }
    (Registry.scoped db [["Z"], []] [["X", "Z"]]).authorizations =
        .ok [granted "X", granted "Z"] ∧
      ∃ f, (Registry.scoped torn [["Z"], []] [["X", "Z"]]).authorizations = .error f := by
  intro granted row db torn
  have hall : (Registry.ofDatabase db).authorizations =
      .ok [granted "X", granted "Y", granted "Z"] := rfl
  have hsets : [["Z"], []] ++ [["X", "Z"]] ≠ [] := List.cons_ne_nil _ _
  have htorn : .ok (.ofTexts ["a", "b", "Y"]) ∈
      Backend.query torn .selectAllAuthorizations [] := List.mem_cons_of_mem _ List.mem_cons_self
  exact ⟨(authorizations_scoped db _ _).listed _ hall hsets,
    (authorizations_scoped torn _ _).broken _ _ htorn rfl⟩

end RealmRegistry
