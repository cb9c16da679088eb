/-
Groups of actions and the scopes that are built from them.

Having nothing to name means two opposite things: without groups nothing is held back, a group
without APIs stands for its whole service, but APIs without actions stand for nothing.

* `mem_namesFor` — the names of a group, told by the catalog;
* `allows_scopeFor` — the scope of some groups, told by the catalog;
* `scopeFor_congr` — scopes are the same if the same names are in their groups;
* `scoped_by_groups` — what groups make of a scope.
-/
import RealmRegistry.Access.Catalog
import RealmRegistry.Proofs.Access.Scope

namespace RealmRegistry.Access

/-! ### Names of groups -/

/-- An action of the catalog with this name is one of a group: of the service, and of one of the
APIs if any is named. -/
def Catalog.InGroup (c : Catalog) (g : ActionGroup) (name : String) : Prop :=
  ∃ x ∈ c.actions, x.name = name ∧ x.service = g.service ∧ (g.apis = [] ∨ x.api ∈ g.apis)

instance Catalog.decidableInGroup (c : Catalog) (g : ActionGroup) (name : String) :
    Decidable (c.InGroup g name) :=
  inferInstanceAs (Decidable (∃ x ∈ c.actions, _))

/-- Nothing is held back without groups, and with groups what is in none of them. -/
def Catalog.Shows (c : Catalog) (groups : List ActionGroup) (name : String) : Prop :=
  groups = [] ∨ ∃ g ∈ groups, c.InGroup g name

instance Catalog.decidableShows (c : Catalog) (groups : List ActionGroup) (name : String) :
    Decidable (c.Shows groups name) :=
  inferInstanceAs (Decidable (groups = [] ∨ ∃ g ∈ groups, c.InGroup g name))

variable {c : Catalog}

@[simp] theorem shows_singleton {g : ActionGroup} {name : String} :
    c.Shows [g] name ↔ c.InGroup g name := by
  simp [Catalog.Shows]

@[simp] theorem mem_forService {service : Service} {x : Action} :
    x ∈ c.forService service ↔ x ∈ c.actions ∧ x.service = service := by
  simp [Catalog.forService]

@[simp] theorem mem_namesForService {service : Service} {name : String} :
    name ∈ c.namesForService service ↔ c.InGroup ⟨service, []⟩ name := by
  rw [Catalog.namesForService, List.mem_map]
  constructor
  · rintro ⟨x, hx, hname⟩
    obtain ⟨hx, hservice⟩ := mem_forService.1 hx
    exact ⟨x, hx, hname, hservice, .inl rfl⟩
  · rintro ⟨x, hx, hname, hservice, -⟩
    exact ⟨x, mem_forService.2 ⟨hx, hservice⟩, hname⟩

@[simp] theorem mem_namesForApis {service : Service} {apis : List Api} {name : String} :
    name ∈ c.namesForApis service apis ↔
      ∃ x ∈ c.actions, x.name = name ∧ x.service = service ∧ x.api ∈ apis := by
  simp only [Catalog.namesForApis, Catalog.forApis, Catalog.forApi, List.mem_map, List.mem_flatMap,
    List.mem_filter, decide_eq_true_eq]
  constructor
  · rintro ⟨x, ⟨api, hapi, hx, hservice, rfl⟩, hname⟩
    exact ⟨x, hx, hname, hservice, hapi⟩
  · rintro ⟨x, hx, hname, hservice, hapi⟩
    exact ⟨x, ⟨x.api, hapi, hx, hservice, rfl⟩, hname⟩

/-- The names of a group are those of its actions. -/
@[simp] theorem mem_namesFor {g : ActionGroup} {name : String} :
    name ∈ c.namesFor g ↔ c.InGroup g name := by
  obtain ⟨service, apis⟩ := g
  rw [Catalog.namesFor]
  split
  next hnone =>
    obtain rfl : apis = [] := List.isEmpty_iff.1 hnone
    exact mem_namesForService
  next hsome =>
    have hne : apis ≠ [] := fun h => hsome (List.isEmpty_iff.2 h)
    rw [mem_namesForApis]
    simp only [Catalog.InGroup, hne, false_or]

theorem inUnion_namesFor_iff {groups : List ActionGroup} {name : String} :
    inUnion (groups.map c.namesFor) name = true ↔ ∃ g ∈ groups, c.InGroup g name := by
  simp

/-! ### Scopes of groups -/

/-- The scope of some groups lets those actions through that the groups show. -/
@[simp] theorem allows_scopeFor (groups : List ActionGroup) (name : String) :
    (c.scopeFor groups).allows name = decide (c.Shows groups name) := by
  rw [Bool.eq_iff_iff, decide_eq_true_eq]
  by_cases hnone : groups = []
  · rw [hnone]
    exact ⟨fun _ => .inl rfl, fun _ => rfl⟩
  · have hsets : groups.map c.namesFor ≠ [] := mt List.map_eq_nil_iff.1 hnone
    rw [Catalog.scopeFor, Scope.ofActionSets, allows_foldl_restrict hsets, inUnion_namesFor_iff,
      Catalog.Shows, or_iff_right hnone]

/-- Scopes are the same if the same names are in their groups. -/
theorem scopeFor_congr {groups groups' : List ActionGroup} (hempty : groups = [] ↔ groups' = [])
    (h : ∀ name, (∃ g ∈ groups, c.InGroup g name) ↔ ∃ g ∈ groups', c.InGroup g name) :
    c.scopeFor groups = c.scopeFor groups' := by
  refine ofActionSets_congr ?_ fun name => ?_
  · rw [List.map_eq_nil_iff, List.map_eq_nil_iff, hempty]
  · rw [Bool.eq_iff_iff, inUnion_namesFor_iff, inUnion_namesFor_iff, h]

/-- A group may stand for another one, wherever it is, that has the same names. -/
theorem scopeFor_exchange {g h : ActionGroup} (hsame : ∀ name, c.InGroup h name ↔ c.InGroup g name)
    (before after : List ActionGroup) :
    c.scopeFor (before ++ h :: after) = c.scopeFor (before ++ g :: after) := by
  refine scopeFor_congr (by simp) fun name => ?_
  simp only [List.mem_append, List.mem_cons, or_and_right, exists_or, exists_eq_left, hsame]

/-- Only without groups nothing is held back. -/
@[simp] theorem scopeFor_eq_unrestricted_iff {groups : List ActionGroup} :
    c.scopeFor groups = .unrestricted ↔ groups = [] := by
  rw [Catalog.scopeFor, ofActionSets_eq_unrestricted_iff, List.map_eq_nil_iff]

/-- Groups let those actions through that are in one of them. -/
theorem allows_scopeFor_iff {groups : List ActionGroup} (h : groups ≠ []) {name : String} :
    (c.scopeFor groups).allows name = true ↔ ∃ g ∈ groups, c.InGroup g name := by
  rw [allows_scopeFor, decide_eq_true_iff, Catalog.Shows, or_iff_right h]

/-- The scope of at least one group is restricted to the names of its groups. -/
theorem exists_allowed_scopeFor {groups : List ActionGroup} (h : groups ≠ []) :
    ∃ allowed : NameSet, c.scopeFor groups = .restricted allowed ∧
      ∀ name, name ∈ allowed.names ↔ ∃ g ∈ groups, c.InGroup g name := by
  have hsets : groups.map c.namesFor ≠ [] := mt List.map_eq_nil_iff.1 h
  obtain ⟨allowed, hscope, hallowed⟩ := exists_allowed hsets
  refine ⟨allowed, hscope, fun name => ?_⟩
  rw [NameSet.mem_names, hallowed, inUnion_namesFor_iff]

/-! ### The same groups -/

/-- Groups of the same service with the same APIs, in whatever order and however often they are
named. -/
structure ActionGroup.Alike (g h : ActionGroup) : Prop where
  service : h.service = g.service
  apis : ∀ api, api ∈ h.apis ↔ api ∈ g.apis

/-- Lists of the same groups, in whatever order and however often they are named. -/
structure SameGroups (groups groups' : List ActionGroup) : Prop where
  left : ∀ g ∈ groups, ∃ h ∈ groups', g.Alike h
  right : ∀ h ∈ groups', ∃ g ∈ groups, g.Alike h

section Same

variable {g g' : ActionGroup} {groups groups' : List ActionGroup}

theorem ActionGroup.Alike.symm (h : g.Alike g') : g'.Alike g where
  service := h.service.symm
  apis api := (h.apis api).symm

theorem ActionGroup.Alike.inGroup (h : g.Alike g') {name : String} (hname : c.InGroup g name) :
    c.InGroup g' name := by
  obtain ⟨x, hx, hxname, hservice, hapi⟩ := hname
  refine ⟨x, hx, hxname, hservice.trans h.service.symm, ?_⟩
  rcases hapi with hnone | hapi
  · refine .inl (List.eq_nil_iff_forall_not_mem.2 fun api hmem => ?_)
    rw [h.apis, hnone] at hmem
    exact List.not_mem_nil hmem
  · exact .inr ((h.apis x.api).2 hapi)

theorem SameGroups.symm (h : SameGroups groups groups') : SameGroups groups' groups where
  left g' hg' := by
    obtain ⟨g, hg, halike⟩ := h.right g' hg'
    exact ⟨g, hg, halike.symm⟩
  right g hg := by
    obtain ⟨g', hg', halike⟩ := h.left g hg
    exact ⟨g', hg', halike.symm⟩

theorem SameGroups.eq_nil (h : SameGroups groups []) : groups = [] := by
  refine List.eq_nil_iff_forall_not_mem.2 fun g hg => ?_
  obtain ⟨_, hmem, -⟩ := h.left g hg
  exact List.not_mem_nil hmem

theorem SameGroups.inGroup (h : SameGroups groups groups') {name : String}
    (hname : ∃ g ∈ groups, c.InGroup g name) : ∃ g ∈ groups', c.InGroup g name := by
  obtain ⟨g, hg, hname⟩ := hname
  obtain ⟨g', hg', halike⟩ := h.left g hg
  exact ⟨g', hg', halike.inGroup hname⟩

theorem SameGroups.scopeFor (h : SameGroups groups groups') :
    c.scopeFor groups' = c.scopeFor groups := by
  refine scopeFor_congr ⟨?_, ?_⟩ fun name => ⟨h.symm.inGroup, h.inGroup⟩
  · rintro rfl
    exact h.eq_nil
  · rintro rfl
    exact h.symm.eq_nil

end Same

/-- A group without APIs has the names of one with all APIs. -/
theorem inGroup_whole {service : Service} {apis : List Api} (hall : ∀ api, api ∈ apis)
    (name : String) : c.InGroup ⟨service, apis⟩ name ↔ c.InGroup ⟨service, []⟩ name := by
  simp [Catalog.InGroup, hall]

/-! ### What groups make of a scope -/

/-- What some groups of actions make of a scope. -/
structure ScopedByGroups (c : Catalog) (groups : List ActionGroup) : Prop where
  /-- Only without groups nothing is held back. -/
  unrestricted : c.scopeFor groups = .unrestricted ↔ groups = []
  /-- An action is let through if one of its name is in the catalog, of the service of a group, and
  of one of its APIs if it has any. -/
  allows : groups ≠ [] → ∀ name, (c.scopeFor groups).allows name = true ↔
    ∃ g ∈ groups, ∃ x ∈ c.actions, x.name = name ∧ x.service = g.service ∧
      (g.apis = [] ∨ x.api ∈ g.apis)
  /-- The order of groups and of their APIs makes no difference, nor does naming them again. -/
  same : ∀ groups', SameGroups groups groups' → c.scopeFor groups' = c.scopeFor groups
  /-- Further groups take nothing away, -/
  monotone : groups ≠ [] → ∀ groups', groups ⊆ groups' → ∀ name,
    (c.scopeFor groups).allows name = true → (c.scopeFor groups').allows name = true
  /-- and a group may have all APIs in place of none. -/
  whole : ∀ before service after, groups = before ++ ⟨service, []⟩ :: after →
    ∀ apis, (∀ api, api ∈ apis) →
      c.scopeFor (before ++ ⟨service, apis⟩ :: after) = c.scopeFor groups

/-- A scope is what the catalog has in its groups, however they are written down. -/
theorem scoped_by_groups (c : Catalog) (groups : List ActionGroup) : ScopedByGroups c groups where
  unrestricted := scopeFor_eq_unrestricted_iff
  allows := by
    intro h name
    exact allows_scopeFor_iff h
  same := by
    intro groups' h
    exact h.scopeFor
  monotone := by
    intro h groups' hsub name hname
    have h' : groups' ≠ [] := by
      rintro rfl
      exact h (List.subset_nil.1 hsub)
    obtain ⟨g, hg, hin⟩ := (allows_scopeFor_iff h).1 hname
    exact (allows_scopeFor_iff h').2 ⟨g, hsub hg, hin⟩
  whole := by
    rintro before service after rfl apis hall
    exact scopeFor_exchange (inGroup_whole hall) before after

/-- A whole service and one API of another; an API without actions adds nothing, and the groups may
be written down in another way. -/
theorem scoped_by_groups_of_two_services :
    let c := Catalog.ofList [⟨.voucher, .management, "VOU_GetBatches", .realm⟩,
      ⟨.bridge, .task, "TSK_DeleteDeniedToUUsers", .global⟩, ⟨.bridge, .kyc, "KYC_GetUser", .group⟩]
    let groups : List ActionGroup := [⟨.voucher, []⟩, ⟨.bridge, [.task, .events]⟩]
    let again : List ActionGroup :=
      [⟨.bridge, [.events, .task, .events]⟩, ⟨.voucher, []⟩, ⟨.bridge, [.task, .events]⟩]
    (c.scopeFor groups).allows "VOU_GetBatches" = true ∧
      (c.scopeFor again).allows "TSK_DeleteDeniedToUUsers" = true ∧
      (c.scopeFor again).allows "KYC_GetUser" ≠ true := by
  intro c groups again
  have hscoped := scoped_by_groups c groups
  have hgroups : groups ≠ [] := List.cons_ne_nil _ _
  have hsame : SameGroups groups again := by
    constructor
    · rintro g hg
      exact ⟨g, List.mem_cons_of_mem _ hg, rfl, fun _ => Iff.rfl⟩
    · rintro g hg
      rcases List.mem_cons.1 hg with rfl | hg
      · exact ⟨⟨.bridge, [.task, .events]⟩, by simp [groups], rfl, fun api => by simp [or_comm]⟩
      · exact ⟨g, hg, rfl, fun _ => Iff.rfl⟩
  rw [hscoped.same again hsame]
  exact ⟨(hscoped.allows hgroups _).2 (by decide), (hscoped.allows hgroups _).2 (by decide),
    fun h => absurd ((hscoped.allows hgroups _).1 h) (by decide)⟩

end RealmRegistry.Access
