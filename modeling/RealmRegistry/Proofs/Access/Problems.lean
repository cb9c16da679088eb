/-
Groups of actions that stand for nothing.

A group without APIs asks for an action of its service, and any other group for one of each of its
APIs.  What is wrong with groups is found by looking for these one at a time, while a scope is built
from all APIs of a group together; still both find the same groups empty.

* `problems_eq_filter` — of all that could be wrong with groups, what the catalog has nothing for;
* `exists_action_of_sound` — each part of groups without problems has an action of the scope;
* `inGroup_kept_iff` — APIs without actions may be left out of a group, but not all of its APIs;
* `problems_match_scope` — what the problems of some groups say about their scope.
-/
import RealmRegistry.Proofs.Access.Groups

namespace RealmRegistry.Access

/-! ### What could be wrong with groups -/

/-- The catalog has no action of the service, or of the API. -/
def Catalog.GroupProblem.Occurs (c : Catalog) : GroupProblem → Prop
  | idleService service => ∀ x ∈ c.actions, x.service ≠ service
  | noSuchApi service api => ∀ x ∈ c.actions, ¬(x.service = service ∧ x.api = api)

instance Catalog.GroupProblem.decidableOccurs (c : Catalog) : DecidablePred (Occurs c)
  | idleService _ => inferInstanceAs (Decidable (∀ x ∈ c.actions, _))
  | noSuchApi _ _ => inferInstanceAs (Decidable (∀ x ∈ c.actions, _))

/-- All that could be wrong with a group: one thing for the group if it has no APIs, else one for
each of them. -/
def ActionGroup.possibleProblems (g : ActionGroup) : List Catalog.GroupProblem :=
  match g.apis with
  | [] => [.idleService g.service]
  | api :: apis => (api :: apis).map (.noSuchApi g.service)

variable {c : Catalog} {groups : List ActionGroup}

theorem ActionGroup.mem_possibleProblems {g : ActionGroup} {p : Catalog.GroupProblem} :
    p ∈ g.possibleProblems ↔ g.apis = [] ∧ p = .idleService g.service ∨
      ∃ api ∈ g.apis, p = .noSuchApi g.service api := by
  obtain ⟨service, apis⟩ := g
  cases apis with
  | nil => simp [ActionGroup.possibleProblems]
  | cons api apis =>
    rw [ActionGroup.possibleProblems, List.mem_map]
    simp only [List.cons_ne_nil, false_and, false_or, eq_comm]

theorem not_occurs_idleService {service : Service} :
    ¬(Catalog.GroupProblem.idleService service).Occurs c ↔
      ∃ x ∈ c.actions, x.service = service := by
  simp [Catalog.GroupProblem.Occurs]

theorem not_occurs_noSuchApi {service : Service} {api : Api} :
    ¬(Catalog.GroupProblem.noSuchApi service api).Occurs c ↔
      ∃ x ∈ c.actions, x.service = service ∧ x.api = api := by
  simp [Catalog.GroupProblem.Occurs]

theorem isEmpty_forService (service : Service) :
    (c.forService service).isEmpty =
      decide ((Catalog.GroupProblem.idleService service).Occurs c) := by
  rw [Bool.eq_iff_iff, Catalog.forService, List.isEmpty_iff, List.filter_eq_nil_iff,
    decide_eq_true_iff]
  simp only [decide_eq_true_eq]
  rfl

theorem isEmpty_forApi (service : Service) (api : Api) :
    (c.forApi service api).isEmpty =
      decide ((Catalog.GroupProblem.noSuchApi service api).Occurs c) := by
  rw [Bool.eq_iff_iff, Catalog.forApi, List.isEmpty_iff, List.filter_eq_nil_iff,
    decide_eq_true_iff]
  simp only [decide_eq_true_eq]
  rfl

theorem groupProblems_eq_filter (g : ActionGroup) :
    c.groupProblems g = g.possibleProblems.filter fun p => p.Occurs c := by
  obtain ⟨service, apis⟩ := g
  cases apis with
  | nil =>
    rw [ActionGroup.possibleProblems, List.filter_cons, List.filter_nil, ← isEmpty_forService]
    simp only [Catalog.groupProblems, List.isEmpty_nil, Bool.true_and, List.filter_nil,
      List.map_nil, List.append_nil]
  | cons api apis =>
    rw [ActionGroup.possibleProblems, List.filter_map]
    simp only [Catalog.groupProblems, List.isEmpty_cons, Bool.false_and, Bool.false_eq_true,
      if_false, List.nil_append, isEmpty_forApi]
    rfl

/-- Of all that could be wrong with groups, that is wrong which the catalog has nothing for. -/
theorem problems_eq_filter :
    c.problems groups =
      (groups.flatMap ActionGroup.possibleProblems).filter fun p => p.Occurs c := by
  rw [Catalog.problems, List.filter_flatMap]
  exact congrArg groups.flatMap (funext groupProblems_eq_filter)

theorem occurs_of_mem_problems {p : Catalog.GroupProblem} (h : p ∈ c.problems groups) :
    p.Occurs c := by
  rw [problems_eq_filter] at h
  exact of_decide_eq_true (List.mem_filter.1 h).2

/-- Nothing is wrong with groups if the catalog has an action of each service that is named alone,
and of each API of each other group. -/
theorem problems_eq_nil_iff :
    c.problems groups = [] ↔ ∀ g ∈ groups,
      (g.apis = [] → ∃ x ∈ c.actions, x.service = g.service) ∧
        ∀ api ∈ g.apis, ∃ x ∈ c.actions, x.service = g.service ∧ x.api = api := by
  rw [problems_eq_filter, List.filter_eq_nil_iff, List.forall_mem_flatMap]
  simp only [decide_eq_true_eq]
  refine forall₂_congr fun g _ => ?_
  constructor
  · intro h
    refine ⟨fun hnone => ?_, fun api hapi => ?_⟩
    · exact not_occurs_idleService.1 (h _ (ActionGroup.mem_possibleProblems.2 (.inl ⟨hnone, rfl⟩)))
    · exact not_occurs_noSuchApi.1 (h _ (ActionGroup.mem_possibleProblems.2 (.inr ⟨api, hapi, rfl⟩)))
  · rintro ⟨hwhole, hapis⟩ p hp
    rcases ActionGroup.mem_possibleProblems.1 hp with ⟨hnone, rfl⟩ | ⟨api, hapi, rfl⟩
    · exact not_occurs_idleService.2 (hwhole hnone)
    · exact not_occurs_noSuchApi.2 (hapis api hapi)

/-! ### Groups without problems -/

/-- Each part of groups without problems has an action of the scope. -/
theorem exists_action_of_sound {g : ActionGroup} (h : c.problems groups = []) (hg : g ∈ groups) :
    ∃ x ∈ c.actions, x.service = g.service ∧ (g.apis = [] ∨ x.api ∈ g.apis) := by
  obtain ⟨hwhole, hapis⟩ := problems_eq_nil_iff.1 h g hg
  by_cases hnone : g.apis = []
  · obtain ⟨x, hx, hservice⟩ := hwhole hnone
    exact ⟨x, hx, hservice, .inl hnone⟩
  · obtain ⟨api, hapi⟩ := List.exists_mem_of_ne_nil g.apis hnone
    obtain ⟨x, hx, hservice, rfl⟩ := hapis api hapi
    exact ⟨x, hx, hservice, .inr hapi⟩

/-! ### APIs that are left out -/

/-- APIs without actions may be left out of a group, as long as one is left. -/
theorem inGroup_kept_iff {g : ActionGroup} {kept : List Api} (hsub : kept ⊆ g.apis)
    (hkept : kept ≠ []) (hleft : ∀ api ∈ g.apis, api ∉ kept →
      (Catalog.GroupProblem.noSuchApi g.service api).Occurs c) (name : String) :
    c.InGroup ⟨g.service, kept⟩ name ↔ c.InGroup g name := by
  have hapis : g.apis ≠ [] := fun hnone => hkept (List.subset_nil.1 (hnone ▸ hsub))
  refine exists_congr fun x => and_congr_right fun hx => and_congr_right fun _ =>
    and_congr_right fun hservice => ?_
  rw [or_iff_right hapis]
  refine (or_iff_right hkept).trans ⟨fun h => hsub h, fun hapi => ?_⟩
  -- an API that was left out has no action, and `x` is one
  exact Decidable.byContradiction fun hout => hleft x.api hapi hout x hx ⟨hservice, rfl⟩

/-! ### Problems and scopes -/

/-- What the problems of some groups say about the groups and about their scope. -/
structure ProblemsMatchScope (c : Catalog) (groups : List ActionGroup) : Prop where
  /-- There are none exactly if the catalog has an action of each service that is named alone, and
  of each API of each other group. -/
  none_iff : c.problems groups = [] ↔ ∀ g ∈ groups,
    (g.apis = [] → ∃ x ∈ c.actions, x.service = g.service) ∧
      ∀ api ∈ g.apis, ∃ x ∈ c.actions, x.service = g.service ∧ x.api = api
  /-- There is one for each service named alone and for each API that has no action, as often as it
  is named and in the order of the groups. -/
  each : c.problems groups =
    (groups.flatMap ActionGroup.possibleProblems).filter fun p => p.Occurs c
  /-- If there are none, the scope is restricted to some names, and each group and each of its APIs
  has an action with one of them. -/
  sound : c.problems groups = [] → groups ≠ [] →
    ∃ allowed : NameSet, c.scopeFor groups = .restricted allowed ∧ allowed.names ≠ [] ∧
      ∀ g ∈ groups,
        (∃ x ∈ c.actions, x.service = g.service ∧ (g.apis = [] ∨ x.api ∈ g.apis) ∧
          x.name ∈ allowed.names) ∧
        ∀ api ∈ g.apis, ∃ x ∈ c.actions, x.service = g.service ∧ x.api = api ∧
          x.name ∈ allowed.names
  /-- APIs that are complained about may be left out of a group with another API, and the scope
  stays as it is. -/
  left_out : ∀ before g after, groups = before ++ g :: after → ∀ kept, kept ⊆ g.apis → kept ≠ [] →
    (∀ api ∈ g.apis, api ∉ kept → .noSuchApi g.service api ∈ c.problems groups) →
    c.scopeFor (before ++ ⟨g.service, kept⟩ :: after) = c.scopeFor groups

/-- The problems of groups are where their scope is empty. -/
theorem problems_match_scope (c : Catalog) (groups : List ActionGroup) :
    ProblemsMatchScope c groups where
  none_iff := problems_eq_nil_iff
  each := problems_eq_filter
  sound := by
    intro hsound hgroups
    obtain ⟨allowed, hscope, hallowed⟩ := exists_allowed_scopeFor (c := c) hgroups
    have hname {g : ActionGroup} (hg : g ∈ groups) {x : Action} (hx : x ∈ c.actions)
        (hservice : x.service = g.service) (hapi : g.apis = [] ∨ x.api ∈ g.apis) :
        x.name ∈ allowed.names := (hallowed x.name).2 ⟨g, hg, x, hx, rfl, hservice, hapi⟩
    refine ⟨allowed, hscope, ?_, fun g hg => ⟨?_, fun api hapi => ?_⟩⟩
    · obtain ⟨g, hg⟩ := List.exists_mem_of_ne_nil groups hgroups
      obtain ⟨x, hx, hservice, hapi⟩ := exists_action_of_sound hsound hg
      exact List.ne_nil_of_mem (hname hg hx hservice hapi)
    · obtain ⟨x, hx, hservice, hapi⟩ := exists_action_of_sound hsound hg
      exact ⟨x, hx, hservice, hapi, hname hg hx hservice hapi⟩
    · obtain ⟨x, hx, hservice, rfl⟩ := (problems_eq_nil_iff.1 hsound g hg).2 api hapi
      exact ⟨x, hx, hservice, rfl, hname hg hx hservice (.inr hapi)⟩
  left_out := by
    rintro before g after rfl kept hsub hkept hleft
    refine scopeFor_exchange (inGroup_kept_iff hsub hkept fun api hapi hout => ?_) before after
    exact occurs_of_mem_problems (hleft api hapi hout)

/-- An API that the service does not have, named twice, and a service without actions: three
problems, of which two go away with the API while the scope stays. -/
theorem problems_match_scope_with_idle :
    let c := Catalog.ofList [⟨.voucher, .management, "VOU_GetBatches", .realm⟩]
    let groups : List ActionGroup := [⟨.voucher, [.kyc, .management, .kyc]⟩, ⟨.event, []⟩]
    let rest : List ActionGroup := [⟨.voucher, [.management]⟩]
    c.problems groups =
        [.noSuchApi .voucher .kyc, .noSuchApi .voucher .kyc, .idleService .event] ∧
      c.scopeFor (⟨.voucher, [.management]⟩ :: [⟨.event, []⟩]) = c.scopeFor groups ∧
      ∃ allowed : NameSet, c.scopeFor rest = .restricted allowed ∧ allowed.names ≠ [] := by
  intro c groups rest
  have hproblems : c.problems groups =
      [.noSuchApi .voucher .kyc, .noSuchApi .voucher .kyc, .idleService .event] := by
    rw [(problems_match_scope c groups).each]
    decide
  refine ⟨hproblems, ?_, ?_⟩
  · refine (problems_match_scope c groups).left_out [] _ [⟨.event, []⟩] rfl [.management]
      (by simp) (by simp) fun api hapi hout => ?_
    rw [hproblems]
    revert api
    decide
  · obtain ⟨allowed, hscope, hne, -⟩ :=
      (problems_match_scope c rest).sound (by decide) (List.cons_ne_nil _ _)
    exact ⟨allowed, hscope, hne⟩

end RealmRegistry.Access
