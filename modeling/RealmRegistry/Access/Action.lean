/-
Actions: what a service lets its callers do.

An action belongs to one API of one service and reaches either nothing in particular, a whole
realm or one group.
-/
import RealmRegistry.Schema.Choice
import RealmRegistry.Schema.Stored

namespace RealmRegistry.Access

open Schema

/-! ### Services, APIs and reach -/

/-- A service that offers actions. -/
inductive Service where
  | bridge
  | event
  | idnow
  | paperCard
  | scheduler
  | signature
  | voucher
  | accreditation
deriving DecidableEq

namespace Service

/-- The name of a service. -/
def name : Service → String
  | bridge => "bridge"
  | event => "event"
  | idnow => "idnow"
  | paperCard => "paper-card"
  | scheduler => "scheduler"
  | signature => "signature"
  | voucher => "voucher"
  | accreditation => "accreditation"

instance instChoice : Choice Service where
  first := bridge
  others := [event, idnow, paperCard, scheduler, signature, voucher, accreditation]
  name := name
  index
    | bridge => 0 | event => 1 | idnow => 2 | paperCard => 3
    | scheduler => 4 | signature => 5 | voucher => 6 | accreditation => 7
  get_index a := by cases a <;> rfl
  index_get := by decide

end Service

/-- A group of actions that a service offers together. -/
inductive Api where
  | communication
  | events
  | kyc
  | management
  | statistic
  | task
  | idnow
  | cards
  | scheduler
  | signature
deriving DecidableEq

namespace Api

/-- The name of an API. -/
def name : Api → String
  | communication => "communication"
  | events => "events"
  | kyc => "kyc"
  | management => "management"
  | statistic => "statistic"
  | task => "task"
  | idnow => "idnow"
  | cards => "cards"
  | scheduler => "scheduler"
  | signature => "signature"

instance instChoice : Choice Api where
  first := communication
  others := [events, kyc, management, statistic, task, idnow, cards, scheduler, signature]
  name := name
  index
    | communication => 0 | events => 1 | kyc => 2 | management => 3 | statistic => 4
    | task => 5 | idnow => 6 | cards => 7 | scheduler => 8 | signature => 9
  get_index a := by cases a <;> rfl
  index_get := by decide

end Api

/-- How far an action reaches. -/
inductive Reach where
  /-- it has nothing to do with a realm -/
  | global
  | realm
  /-- one group of a realm -/
  | group
deriving DecidableEq

namespace Reach

/-- The name of a reach. -/
def name : Reach → String
  | global => "global"
  | realm => "realm"
  | group => "group"

instance instChoice : Choice Reach where
  first := global
  others := [realm, group]
  name := name
  index
    | global => 0 | realm => 1 | group => 2
  get_index a := by cases a <;> rfl
  index_get := by decide

end Reach

/-! ### Actions -/

/-- Something that a service lets its callers do. -/
structure Action where
  service : Service
  api : Api
  name : String
  reach : Reach
deriving DecidableEq

namespace Action

/-- The fields of an action as it is printed. -/
def layout : Layout :=
  .cons "service" .required (Shaped.shape Service) <|
  .cons "api" .required (Shaped.shape Api) <|
  .cons "name" .required .text <|
  .cons "scope" .required (Shaped.shape Reach) <|
  .nil

instance instShaped : Shaped Action where
  shape := .record "Action" layout
  pack a := (Shaped.pack a.service, Shaped.pack a.api, a.name, Shaped.pack a.reach, ())
  unpack := fun (a, b, c, d, ()) => ⟨Shaped.unpack a, Shaped.unpack b, c, Shaped.unpack d⟩
  unpack_pack a := by simp [Shaped.unpack_pack]
  pack_unpack := fun (a, b, c, d, ()) => by simp [Shaped.pack_unpack]; rfl

end Action

/-! ### Groups of actions -/

/-- Some APIs of a service; the whole service if none is named. -/
structure ActionGroup where
  service : Service
  apis : List Api
deriving DecidableEq

namespace ActionGroup

/-- The fields of a group; APIs that are left out are the same as none. -/
def layout : Layout :=
  .cons "service" .required (Shaped.shape Service) <|
  .cons "apis" (.defaulted .bare true) (Shaped.shape (List Api)) <|
  .nil

instance instShaped : Shaped ActionGroup where
  shape := .record "ScopeConfig" layout
  pack g := (Shaped.pack g.service, Shaped.pack g.apis, ())
  unpack := fun (a, b, ()) => ⟨Shaped.unpack a, Shaped.unpack b⟩
  unpack_pack g := by simp [Shaped.unpack_pack]
  pack_unpack := fun (a, b, ()) => by simp [Shaped.pack_unpack]; rfl

end ActionGroup

end RealmRegistry.Access
