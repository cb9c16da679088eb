/-
Addresses of databases: where the text after `sqlite:` leads.

The address is a name and, behind a question mark, options.  The name is percent-encoded, so it can
hold any character; what it stands for is a file, unless it begins with `file:`, which makes it an
address of its own, with options of its own.  An option that is not known, or has a value that is
not known, is refused.

* `Location.ofName` — where a name leads that is not encoded any more;
* `Location.ofAddress` — where an address leads.
-/
import RealmRegistry.Store.Fault
import RealmRegistry.Text.Percent
import RealmRegistry.Text.Quoted

namespace RealmRegistry.Store

open Text

/-! ### Options -/

/-- What is wrong with an option of an address. -/
def optionProblem? (name value : String) : Option String :=
  let unlessIn (values : List String) : Option String :=
    if values.contains value then none
    else some ("unknown value " ++ quoted value ++ " for `" ++ name ++ "`")
  match name with
  | "mode" => unlessIn ["ro", "rw", "rwc", "memory"]
  | "cache" => unlessIn ["private", "shared"]
  | "immutable" => unlessIn ["true", "1", "false", "0"]
  | "vfs" => none
  | _ => some ("unknown query parameter `" ++ name ++ "` while parsing connection URL")

/-! ### Locations -/

/-- Where a database is. -/
inductive Location where
  | memory
  | file (path : String)
deriving DecidableEq

namespace Location

/-- What is reported of an address that cannot be followed. -/
def refused {α : Type} (text : String) : Except DatabaseFault α :=
  .error (.noConnection (.engine 1 text))

/-- What is reported of a system of files that is not known. -/
def unknownSystem {α : Type} (name : String) : Except DatabaseFault α :=
  refused ("no such vfs: " ++ name)

/-- The bytes of an encoded part up to a NUL, which ends it. -/
def partText (s : List Char) : String :=
  .ofList (Utf8.lenient ((percentBytes s).takeWhile (· != 0)))

/-- What is wrong with an option of a file's address. -/
def fileOptionProblem? (name value : String) : Option String :=
  match name with
  | "cache" =>
    if ["shared", "private"].contains value then none else some ("no such cache mode: " ++ value)
  | "mode" =>
    if ["ro", "rw", "rwc", "memory"].contains value then none
    else some ("no such access mode: " ++ value)
  | _ => none

/-- The path of a file's address, behind the name of its host, which has to be this one. -/
def filePath (s : List Char) : Except DatabaseFault (List Char) :=
  match s with
  | '/' :: '/' :: r =>
    let host := r.takeWhile (· != '/')
    if host = [] ∨ host = "localhost".toList then .ok (r.drop host.length)
    else refused ("invalid uri authority: " ++ .ofList host)
  | s => .ok s

/-- The location of a path that may be empty, for a database that nobody else sees. -/
def ofPath (path : String) : Location :=
  if path = "" ∨ path = ":memory:" then .memory else .file path

/-- Where the address of a file leads, behind `file:`. -/
def ofFileAddress (s : List Char) : Except DatabaseFault Location := do
  let s ← filePath (s.takeWhile (· != '#'))
  let (path, query) := cut '?' s
  let options := ((splitAt '&' (query.getD [])).map optionOf).map fun (name, value) =>
    (partText name, partText value)
  match options.findSome? fun (name, value) => fileOptionProblem? name value with
  | some problem => refused problem
  | none =>
    match options.reverse.lookup "vfs" with
    | some name => unknownSystem name
    | none =>
      return if options.contains ("mode", "memory") then .memory else ofPath (partText path)

/-- What is reported of a name with a NUL. -/
def namesNul : DriverFault :=
  .unreachable "filename passed to SQLite must not contain nul bytes"

/-- Where a name leads. -/
def ofName (name : List Char) : Except DatabaseFault Location :=
  if name.contains '\x00' then .error (.noConnection namesNul)
  else
    match name with
    | 'f' :: 'i' :: 'l' :: 'e' :: ':' :: r => ofFileAddress r
    | _ => .ok (ofPath (.ofList name))

/-! ### Addresses -/

/-- A text without the repetitions of a word at its front. -/
def withoutScheme (first : Char) (more : List Char) : List Char → List Char
  | [] => []
  | c :: r =>
    if c = first ∧ more.isPrefixOf r then withoutScheme first more (r.drop more.length) else c :: r
termination_by s => s.length
decreasing_by exact Nat.lt_succ_of_le (List.drop_suffix _ _).length_le

/-- The words for bytes that are no text. -/
def notText (b : Utf8.Break) : String :=
  if b.followed then
    "invalid utf-8 sequence of " ++ toString b.size ++ " bytes from index " ++ toString b.index
  else "incomplete utf-8 byte sequence from index " ++ toString b.index

/-- The name in an address. -/
def nameOf (s : List Char) : Except DatabaseFault (List Char) :=
  let pieces := Utf8.pieces (percentBytes s)
  match Utf8.firstBroken? 0 pieces with
  | some b => .error (.badAddress (notText b))
  | none => .ok (pieces.map Utf8.Piece.shown)

/-- Where an address leads. -/
def ofAddress (address : String) : Except DatabaseFault Location := do
  let s := withoutScheme 's' "qlite:".toList (withoutScheme 's' "qlite://".toList address.toList)
  let (encoded, query) := cut '?' s
  let name ← nameOf encoded
  let options := formOptions (query.getD [])
  match options.findSome? fun (name, value) => optionProblem? name value with
  | some problem => .error (.badAddress problem)
  | none =>
    match options.reverse.lookup "vfs" with
    | some system => unknownSystem system
    | none =>
      if encoded = ":memory:".toList ∨ options.contains ("mode", "memory") then return .memory
      else ofName name

end Location

end RealmRegistry.Store
