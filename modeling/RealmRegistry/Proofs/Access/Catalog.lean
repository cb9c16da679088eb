/-
Catalogs find what they hold.

A catalog notes the place of each name while it goes through its actions once, and a name that has a
place keeps it.  So an action is found by name as if the list were searched from its beginning.  The
actions of a service can be asked for at once or API by API, and nothing is lost or doubled on either
way.

* `get?_notePlaces` — which place a name has, whatever places were noted before;
* `find?_ofList` — an action is found as by a search;
* `perm_forApis` — the actions of different APIs are those of the service with one of them;
* `ofList_indexes` — what a catalog finds.
-/
import Mathlib.Data.List.Nodup
import RealmRegistry.Proofs.Access.Groups

namespace RealmRegistry.Access

/-! ### Places of names -/

/-- A name has the place that was noted for it before, or else that of its first action. -/
theorem get?_notePlaces (places : Dict Nat) (place : Nat) (actions : List Action) (name : String) :
    (Catalog.notePlaces places place actions).get? name =
      (places.get? name).or ((actions.findIdx? (·.name == name)).map (place + ·)) := by
  induction actions generalizing places place with
  | nil => simp [Catalog.notePlaces]
  | cons a r ih =>
    rw [Catalog.notePlaces, ih, List.findIdx?_cons]
    by_cases hname : a.name = name
    · -- from here on the name has a place, and if it had none before, it is this one
      subst hname
      cases hplace : places.get? a.name with
      | none => simp
      | some known => simp [hplace]
    · have hnoted : (if (places.get? a.name).isSome then places
          else places.insert a.name place).get? name = places.get? name := by
        split
        · rfl
        · rw [Dict.get?_insert, if_neg (Ne.symm hname)]
      rw [hnoted, if_neg (by simpa using hname), Option.map_map]
      refine congrArg (places.get? name).or (congrArg (Option.map · _) (funext fun i => ?_))
      exact Nat.add_right_comm place 1 i

variable {actions : List Action}

@[simp] theorem get?_places (name : String) :
    (Catalog.ofList actions).places.get? name = actions.findIdx? (·.name == name) := by
  have hempty : (Dict.empty : Dict Nat).get? name = none := rfl
  rw [Catalog.ofList, get?_notePlaces, hempty, Option.none_or]
  simp

/-- A place is noted for a name if an action of that name is there and none before. -/
theorem get?_places_eq_some_iff {name : String} {place : Nat} :
    (Catalog.ofList actions).places.get? name = some place ↔
      ∃ h : place < actions.length, actions[place].name = name ∧
        ∀ i (hi : i < place), actions[i].name ≠ name := by
  rw [get?_places, List.findIdx?_eq_some_iff_getElem]
  simp only [beq_iff_eq, ne_eq]

/-- An action is found by its name as if all actions were searched. -/
@[simp] theorem find?_ofList (name : String) :
    (Catalog.ofList actions).find? name = actions.find? (·.name == name) := by
  rw [Catalog.find?, get?_places, List.find?_eq_bind_findIdx?_getElem?]
  rfl

/-! ### Actions by API -/

variable {c : Catalog}

@[simp] theorem forApis_append (service : Service) (apis apis' : List Api) :
    c.forApis service (apis ++ apis') = c.forApis service apis ++ c.forApis service apis' :=
  List.flatMap_append

@[simp] theorem forApis_cons (service : Service) (api : Api) (apis : List Api) :
    c.forApis service (api :: apis) = c.forApi service api ++ c.forApis service apis :=
  List.flatMap_cons

/-- The actions of different APIs are all actions of the service with one of these, each as often as
it is in the catalog. -/
theorem perm_forApis {service : Service} {apis : List Api} (h : apis.Nodup) :
    (c.forApis service apis).Perm
      (c.actions.filter fun a => a.service = service ∧ a.api ∈ apis) := by
  induction apis with
  | nil => simp [Catalog.forApis]
  | cons api apis ih =>
    obtain ⟨hnew, hapis⟩ := List.nodup_cons.1 h
    -- the actions wanted are split into those of the first API and those of another
    have hsplit := List.filter_append_perm (fun a : Action => decide (a.api = api))
      (c.actions.filter fun a => a.service = service ∧ a.api ∈ api :: apis)
    have hown : ((c.actions.filter fun a => a.service = service ∧ a.api ∈ api :: apis).filter
        fun a => decide (a.api = api)) = c.forApi service api := by
      rw [List.filter_filter, Catalog.forApi]
      refine List.filter_congr fun a _ => ?_
      by_cases ha : a.api = api <;> simp [ha]
    have hother : ((c.actions.filter fun a => a.service = service ∧ a.api ∈ api :: apis).filter
        fun a => !decide (a.api = api)) =
          c.actions.filter fun a => a.service = service ∧ a.api ∈ apis := by
      rw [List.filter_filter]
      refine List.filter_congr fun a _ => ?_
      by_cases ha : a.api = api
      · simp [ha, hnew]
      · simp [ha]
    rw [hown, hother] at hsplit
    rw [forApis_cons]
    exact ((ih hapis).append_left _).trans hsplit

/-- If an API is among them for each action of the service, these are the actions of the service. -/
theorem perm_forService {service : Service} {apis : List Api} (h : apis.Nodup)
    (hall : ∀ a ∈ c.actions, a.service = service → a.api ∈ apis) :
    (c.forApis service apis).Perm (c.forService service) := by
  have hsame : (c.actions.filter fun a => a.service = service ∧ a.api ∈ apis) =
      c.forService service := by
    refine List.filter_congr fun a ha => ?_
    exact decide_eq_decide.2 (and_iff_left_of_imp (hall a ha))
  rw [← hsame]
  exact perm_forApis h

/-! ### What a catalog finds -/

/-- What the catalog of some actions finds, where names may be repeated. -/
structure Catalog.Indexes (actions : List Action) : Prop where
  /-- An action is found by a name if it is the first one of that name, -/
  first : ∀ name a, (ofList actions).find? name = some a ↔
    ∃ before after, actions = before ++ a :: after ∧ a.name = name ∧ ∀ b ∈ before, b.name ≠ name
  /-- and none only if no action has the name. -/
  absent : ∀ name, (ofList actions).find? name = none ↔ ∀ a ∈ actions, a.name ≠ name
  /-- A place is kept for a name if it is that of the first action of the name. -/
  place : ∀ name place, (ofList actions).places.get? name = some place ↔
    ∃ h : place < actions.length, actions[place].name = name ∧
      ∀ i (hi : i < place), actions[i].name ≠ name
  /-- Different APIs that leave none of a service out have its actions, each as often as it is
  there, -/
  whole : ∀ service apis, apis.Nodup →
    (∀ a ∈ actions, a.service = service → a.api ∈ apis) →
    ((ofList actions).forApis service apis).Perm (actions.filter fun a => a.service = service)
  /-- and the names that the service has; -/
  names : ∀ service apis, apis.Nodup →
    (∀ a ∈ actions, a.service = service → a.api ∈ apis) →
    ((ofList actions).namesForApis service apis).Perm ((ofList actions).namesForService service)
  /-- each API has its actions in the order of the list. -/
  block : ∀ service before api after, (ofList actions).forApis service (before ++ api :: after) =
    (ofList actions).forApis service before ++
      actions.filter (fun a => a.service = service ∧ a.api = api) ++
        (ofList actions).forApis service after

/-- A catalog finds its actions by name, by service and by API. -/
theorem ofList_indexes (actions : List Action) : Catalog.Indexes actions where
  first := by
    intro name a
    rw [find?_ofList, List.find?_eq_some_iff_append]
    simp only [beq_iff_eq, Bool.not_eq_true', beq_eq_false_iff_ne]
    constructor
    · rintro ⟨hname, before, after, hactions, hbefore⟩
      exact ⟨before, after, hactions, hname, hbefore⟩
    · rintro ⟨before, after, hactions, hname, hbefore⟩
      exact ⟨hname, before, after, hactions, hbefore⟩
  absent := by
    intro name
    rw [find?_ofList, List.find?_eq_none]
    simp only [beq_iff_eq, ne_eq]
  place _ _ := get?_places_eq_some_iff
  whole _ _ h hall := perm_forService h hall
  names _ _ h hall := (perm_forService h hall).map Action.name
  block := by
    intro service before api after
    rw [forApis_append, forApis_cons, ← List.append_assoc]
    rfl

/-- A name that two services have, and a service with two APIs that are asked for the other way
round. -/
theorem ofList_indexes_repeated :
    let kept : Action := ⟨.bridge, .task, "GetAll", .realm⟩
    let other : Action := ⟨.bridge, .kyc, "GetUser", .group⟩
    let actions : List Action := [kept, other, ⟨.voucher, .management, "GetAll", .global⟩, kept]
    (Catalog.ofList actions).find? "GetAll" = some kept ∧
      ((Catalog.ofList actions).forApis .bridge [.kyc, .events, .task]).Perm [kept, other, kept] := by
  intro kept other actions
  have hindexes := ofList_indexes actions
  exact ⟨(hindexes.first _ _).2 ⟨[], _, rfl, rfl, fun _ h => absurd h List.not_mem_nil⟩,
    hindexes.whole .bridge _ (by decide) (by decide)⟩

end RealmRegistry.Access
