/-
Authorizations: a group of a realm may carry out an action, in its own realm or, where a target is
given, in another realm or for another group.
-/
import RealmRegistry.Schema.Stored

namespace RealmRegistry

open Schema

/-- A group's leave to carry out an action. -/
structure Authorization where
  realmId : String
  groupName : String
  action : String
  targetRealmId : Option String
  targetGroupName : Option String
deriving DecidableEq

namespace Authorization

/-- The fields of an authorization; a target that is not set is left out. -/
def layout : Layout :=
  .cons "realm_id" .required .text <|
  .cons "group_id" .required .text <|
  .cons "action" .required .text <|
  .cons "target_realm_id" .optional .text <|
  .cons "target_group_name" .optional .text <|
  .nil

instance instShaped : Shaped Authorization where
  shape := .record "Authorization" layout
  pack a := (a.realmId, a.groupName, a.action, a.targetRealmId, a.targetGroupName, ())
  unpack := fun (a, b, c, d, e, ()) => ⟨a, b, c, d, e⟩
  unpack_pack _ := rfl
  pack_unpack _ := rfl

end Authorization

end RealmRegistry
