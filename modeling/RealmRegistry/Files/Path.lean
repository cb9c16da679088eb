/-
Paths: names between slashes.

* `Path.steps` — what a walk along a path does, one name after the other;
* `Path.names` — the same for comparing paths, in which `a/./b/` is `a/b`;
* `Path.join` — a name in a directory;
* `Path.ancestors` — a path, the directory in which it is, and so on.
-/
import RealmRegistry.Text.Split

namespace RealmRegistry.Path

/-- The step to the directory of all files. -/
def top : String := "/"

/-- The step that stays where it is. -/
def here : String := "."

/-- The step to the directory in which a directory is. -/
def up : String := ".."

/-- The steps of a path without regard to its end. -/
def innerSteps (path : String) : List String :=
  let inner := ((Text.splitAt '/' path.toList).filter (!·.isEmpty)).map String.ofList
  if path.toList.head? = some '/' then top :: inner else inner

/-- The steps of a path.  A path that ends in a slash can lead only to a directory. -/
def steps (path : String) : List String :=
  if path.toList.getLast? = some '/' then innerSteps path ++ [here] else innerSteps path

/-- The steps of a path without those that stay, unless it begins with one. -/
def names (path : String) : List String :=
  match innerSteps path with
  | [] => []
  | first :: r => first :: r.filter (· != here)

/-- The path of a name in a directory. -/
def join (directory name : String) : String :=
  if directory = "" ∨ directory.toList.getLast? = some '/' then directory ++ name
  else directory ++ "/" ++ name

/-- The path of names one after the other. -/
def ofNames : List String → String
  | [] => ""
  | first :: r => r.foldl join first

/-- The paths of names, of all but the last, and so on. -/
def shortened : (reversed : List String) → List String
  | [] => []
  | name :: outer => ofNames (name :: outer).reverse :: shortened outer

/-- A path, the directory in which it is, the one in which that is, and so on. -/
def ancestors (path : String) : List String :=
  if path = "" then [] else path :: shortened (names path).dropLast.reverse

end RealmRegistry.Path
