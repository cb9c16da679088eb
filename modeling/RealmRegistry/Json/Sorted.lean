/-
JSON values with the members of all objects in the order of their keys.
-/
import RealmRegistry.Dict
import RealmRegistry.Json.Basic

namespace RealmRegistry.Json

mutual

/-- A value with its members in the order of their keys; of members with one key the last counts. -/
@[simp] def sorted : Json → Json
  | null => null
  | flag b => .flag b
  | integer i => .integer i
  | float x => .float x
  | text s => .text s
  | list vs => .list (sortedItems vs)
  | object ms => .object (Dict.ofList (sortedMembers ms)).entries

/-- The same for each element of a list. -/
def sortedItems : List Json → List Json
  | [] => []
  | v :: r => sorted v :: sortedItems r

/-- The same for each member of an object. -/
def sortedMembers : List (String × Json) → List (String × Json)
  | [] => []
  | (k, v) :: r => (k, sorted v) :: sortedMembers r

end

end RealmRegistry.Json
