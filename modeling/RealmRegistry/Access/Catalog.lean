/-
Catalogs: the actions that there are, in a fixed order.

A catalog keeps for each name the place of its first action, so that an action is found by name
without a search:

* `Catalog.ofList` — the catalog of some actions, in which names may be repeated;
* `Catalog.scopeFor` — the scope of some groups of actions, where a group that names no API stands
  for the whole service.
-/
import RealmRegistry.Access.Action
import RealmRegistry.Access.Scope

namespace RealmRegistry.Access

open Schema

/-! ### Catalogs -/

/-- Actions in their order, and where each name occurs first. -/
structure Catalog where
  actions : List Action
  places : Dict Nat

namespace Catalog

/-- Notes the places of actions, the first of which is at `place`; a name that has a place keeps
it. -/
def notePlaces (places : Dict Nat) (place : Nat) : List Action → Dict Nat
  | [] => places
  | a :: r =>
    let noted := if (places.get? a.name).isSome then places else places.insert a.name place
    notePlaces noted (place + 1) r

/-- The catalog of some actions. -/
def ofList (actions : List Action) : Catalog :=
  ⟨actions, notePlaces Dict.empty 0 actions⟩

/-- The first action of a name. -/
def find? (c : Catalog) (name : String) : Option Action :=
  (c.places.get? name).bind fun place => c.actions[place]?

/-- The number of actions. -/
def size (c : Catalog) : Nat := c.actions.length

/-- Whether there are no actions. -/
def isEmpty (c : Catalog) : Bool := c.actions.isEmpty

/-- The actions of a service. -/
def forService (c : Catalog) (service : Service) : List Action :=
  c.actions.filter fun a => a.service = service

/-- The actions of one API of a service. -/
def forApi (c : Catalog) (service : Service) (api : Api) : List Action :=
  c.actions.filter fun a => a.service = service ∧ a.api = api

/-- The actions of some APIs of a service, in the order of the APIs. -/
def forApis (c : Catalog) (service : Service) (apis : List Api) : List Action :=
  apis.flatMap (c.forApi service)

/-- The names of the actions of a service. -/
def namesForService (c : Catalog) (service : Service) : List String :=
  (c.forService service).map Action.name

/-- The names of the actions of some APIs of a service. -/
def namesForApis (c : Catalog) (service : Service) (apis : List Api) : List String :=
  (c.forApis service apis).map Action.name

/-! ### Scopes from groups -/

/-- The names of the actions of a group. -/
def namesFor (c : Catalog) (group : ActionGroup) : List String :=
  if group.apis.isEmpty then c.namesForService group.service
  else c.namesForApis group.service group.apis

/-- The scope of some groups; without groups nothing is held back. -/
def scopeFor (c : Catalog) (groups : List ActionGroup) : Scope :=
  .ofActionSets (groups.map c.namesFor)

/-! ### Groups that stand for nothing -/

/-- What is wrong with a group. -/
inductive GroupProblem where
  /-- a service without actions -/
  | idleService (service : Service)
  /-- an API that the service does not have -/
  | noSuchApi (service : Service) (api : Api)
deriving DecidableEq

/-- The words for a problem. -/
def GroupProblem.message : GroupProblem → String
  | idleService service => "Service '" ++ service.name ++ "' has no registered actions"
  | noSuchApi service api =>
    "Service '" ++ service.name ++ "' has no actions for API '" ++ api.name ++ "'"

/-- The problems of a group: without APIs the service has to have actions, else each API. -/
def groupProblems (c : Catalog) (group : ActionGroup) : List GroupProblem :=
  let service := group.service
  let idle := group.apis.isEmpty && (c.forService service).isEmpty
  let missing := group.apis.filter fun api => (c.forApi service api).isEmpty
  (if idle then [.idleService service] else []) ++ missing.map (.noSuchApi service)

/-- The problems of some groups. -/
def problems (c : Catalog) (groups : List ActionGroup) : List GroupProblem :=
  groups.flatMap c.groupProblems

end Catalog

end RealmRegistry.Access
