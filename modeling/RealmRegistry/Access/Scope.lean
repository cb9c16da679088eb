/-
Scopes: which actions a reader of authorizations gets to see.

A scope is merged from sets of action names.  Without any set nothing is held back; with at least
one, be it empty, only the actions of the sets are seen:

* `Scope.allows_restrict` — a further set adds its names and takes none away.
-/
import RealmRegistry.Dict

namespace RealmRegistry.Access

/-- A set of names, in increasing order. -/
abbrev NameSet : Type := Dict Unit

namespace NameSet

/-- Adds names to a set. -/
def union (s : NameSet) (names : List String) : NameSet :=
  names.foldl (fun t n => t.insert n ()) s

/-- Whether a name is in a set. -/
def contains (s : NameSet) (n : String) : Bool :=
  (s.get? n).isSome

/-- The names of a set, in increasing order. -/
def names (s : NameSet) : List String :=
  s.entries.map (·.1)

@[simp] theorem contains_union (s : NameSet) (names : List String) (n : String) :
    (s.union names).contains n = (names.contains n || s.contains n) := by
  induction names generalizing s with
  | nil => simp [union]
  | cons m r ih =>
    have : (s.union (m :: r)).contains n = (union (s.insert m ()) r).contains n := rfl
    rw [this, ih]
    by_cases h : n = m
    · simp [contains, h]
    · simp [contains, h]

@[simp] theorem contains_empty (n : String) : contains Dict.empty n = false := rfl

end NameSet

/-- Which actions are seen. -/
inductive Scope where
  | unrestricted
  | restricted (allowed : NameSet)
deriving DecidableEq

namespace Scope

/-- The names that a scope has taken in so far. -/
def names : Scope → NameSet
  | unrestricted => Dict.empty
  | restricted allowed => allowed

/-- Merges a set of actions into a scope, which is restricted from then on. -/
def restrict (s : Scope) (actions : List String) : Scope :=
  .restricted (s.names.union actions)

/-- The scope of some sets of actions. -/
def ofActionSets (sets : List (List String)) : Scope :=
  sets.foldl restrict .unrestricted

/-- Whether an action is seen. -/
def allows (s : Scope) (action : String) : Bool :=
  match s with
  | unrestricted => true
  | restricted allowed => allowed.contains action

@[simp] theorem allows_restrict (s : Scope) (actions : List String) (a : String) :
    (s.restrict actions).allows a = (actions.contains a || s.names.contains a) :=
  NameSet.contains_union s.names actions a

end Scope

end RealmRegistry.Access
