/-
The command line.

A line has two levels, before and after the verb.  At each level options and operands are read one
argument at a time; the value that was read last is looked at only when the next argument is
known to be one that the level has, or at the end:

* `Usage` — why there is no request in a line;
* `Level.read` — reads the arguments of a level, up to a verb if the level has verbs;
* `Request.ofArguments` — the request of a line.
-/
import RealmRegistry.Command.Basic

namespace RealmRegistry

open Schema Access

/-- Why there is no request in a command line. -/
inductive Usage where
  | help
  | version
  /-- there is nothing in it -/
  | nothing
  | noVerb
  | unknownVerb
  | unknownArgument
  | missingArgument
  /-- an option without a value, or an empty path -/
  | emptyValue
  /-- no service or API has the name -/
  | unknownValue
  /-- an option given twice -/
  | repeated
  /-- a value for an option that takes none -/
  | surplusValue
deriving DecidableEq

/-- Whether the line asks for what it gets. -/
def Usage.isAnswer : Usage → Bool
  | help => true
  | version => true
  | _ => false

/-- The exit code for a line without a request. -/
def Usage.exitCode (u : Usage) : Nat := if u.isAnswer then 0 else 2

namespace Command

/-! ### Levels -/

/-- An option, at whatever level. -/
inductive Switch where
  | settings
  | service
  | api
  | help
  | version
deriving DecidableEq

namespace Switch

/-- The long form, after two dashes. -/
def name : Switch → String
  | settings => "config"
  | service => "service"
  | api => "api"
  | help => "help"
  | version => "version"

/-- The short form, after one dash. -/
def letter? : Switch → Option Char
  | settings => some 'c'
  | service => none
  | api => none
  | help => some 'h'
  | version => some 'V'

/-- What an option does that takes no value. -/
def answer? : Switch → Option Usage
  | help => some .help
  | version => some .version
  | _ => none

end Switch

/-- What stands in a place of its own. -/
inductive Operand where
  /-- any text, even none -/
  | realm
  /-- a path, which is not empty -/
  | path
deriving DecidableEq

/-- What arguments there may be. -/
structure Level where
  switches : List Switch
  operands : List Operand
  /-- how many operands there have to be -/
  required : Nat
  hasVerbs : Bool

/-- The level before the verb. -/
def Level.root : Level := ⟨[.settings, .help, .version], [], 0, true⟩

/-- The level after a verb. -/
def Level.ofVerb : Verb → Level
  | .test => ⟨[.settings, .help], [.path], 0, false⟩
  | .getConfig => ⟨[.settings, .help], [.realm], 1, false⟩
  | .getAdminConfig => ⟨[.settings, .help], [.realm], 1, false⟩
  | .getConfigs => ⟨[.settings, .help], [.realm], 1, false⟩
  | .getContextKeys => ⟨[.settings, .help], [.realm], 1, false⟩
  | .setContextKeys => ⟨[.settings, .help], [.realm, .path], 2, false⟩
  | .listAuthorizations => ⟨[.service, .api, .settings, .help], [], 0, false⟩
  | .listActions => ⟨[.service, .settings, .help], [], 0, false⟩

/-! ### What was read -/

/-- The values of a level. -/
structure Given where
  settings : Option String
  service : Option Service
  apis : List Api
  operands : List String
deriving DecidableEq

/-- Nothing. -/
def Given.none : Given := ⟨Option.none, Option.none, [], []⟩

/-- Whether there is any value. -/
def Given.isNothing (g : Given) : Bool := decide (g = .none)

/-- A path, which is not empty. -/
def readPath (value : String) : Except Usage String :=
  if value = "" then .error .emptyValue else .ok value

/-- A value by its name. -/
def readName (α : Type) [Choice α] (value : String) : Except Usage α :=
  match Choice.ofName? α value with
  | some a => .ok a
  | Option.none => .error .unknownValue

/-- Adds the value of an option; only `--api` may be given more than once. -/
def Given.addOption (g : Given) (o : Switch) (value : String) : Except Usage Given :=
  match o with
  | .settings =>
    if g.settings.isSome then .error .repeated
    else (readPath value).map fun p => { g with settings := some p }
  | .service =>
    if g.service.isSome then .error .repeated
    else (readName Service value).map fun s => { g with service := some s }
  | .api => (readName Api value).map fun a => { g with apis := g.apis ++ [a] }
  | .help => .ok g
  | .version => .ok g

/-- Adds an operand. -/
def Given.addOperand (g : Given) (kind : Operand) (value : String) : Except Usage Given :=
  match kind with
  | .realm => .ok { g with operands := g.operands ++ [value] }
  | .path => (readPath value).map fun p => { g with operands := g.operands ++ [p] }

/-- What was read last and not looked at yet. -/
inductive Pending where
  | nothing
  /-- an option that waits for its value -/
  | waiting (o : Switch)
  | option (o : Switch) (value : String)
  | operand (kind : Operand) (value : String)
deriving DecidableEq

/-- How far a level is read. -/
structure Reading where
  given : Given
  pending : Pending
deriving DecidableEq

namespace Reading

/-- Before the first argument. -/
def start : Reading := ⟨.none, .nothing⟩

/-- Looks at what was read last. -/
def settle (s : Reading) : Except Usage Given :=
  match s.pending with
  | .nothing => .ok s.given
  | .waiting _ => .error .emptyValue
  | .option o value => s.given.addOption o value
  | .operand kind value => s.given.addOperand kind value

/-- Looks at what was read last and goes on. -/
def next (s : Reading) (pending : Pending) : Except Usage Reading :=
  s.settle.map fun g => ⟨g, pending⟩

/-- Adds the value that is attached to an option. -/
def attach (s : Reading) (o : Switch) (value : String) : Except Usage Reading := do
  let g ← s.settle
  let g ← g.addOption o value
  return ⟨g, .nothing⟩

/-- Answers an option that takes no value. -/
def answer (s : Reading) (u : Usage) : Except Usage Reading :=
  match s.settle with
  | .error e => .error e
  | .ok _ => .error u

/-- The number of operands so far. -/
def operandCount (s : Reading) : Nat :=
  match s.pending with
  | .operand _ _ => s.given.operands.length + 1
  | _ => s.given.operands.length

end Reading

/-! ### Reading a level -/

namespace Level

/-- The option of a long form. -/
def ofName? (l : Level) (name : String) : Option Switch :=
  l.switches.find? fun o => o.name == name

/-- The option of a short form. -/
def ofLetter? (l : Level) (c : Char) : Option Switch :=
  l.switches.find? fun o => o.letter? == some c

/-- Reads an option in its long form, given what stands after the two dashes. -/
def readLong (l : Level) (s : Reading) (text : List Char) : Except Usage Reading :=
  let name := text.takeWhile (· != '=')
  match l.ofName? (String.ofList name), text.drop name.length with
  | none, _ => .error .unknownArgument
  | some o, value =>
    match o.answer?, value with
    | some u, [] => s.answer u
    | some _, _ :: _ => .error .surplusValue
    | none, [] => s.next (.waiting o)
    | none, _ :: value => s.attach o (String.ofList value)

/-- Reads options in their short forms.  One that takes a value takes the rest, without an equals
sign at its beginning. -/
def readShort (l : Level) (s : Reading) : List Char → Except Usage Reading
  | [] => .ok s
  | c :: r =>
    match l.ofLetter? c with
    | none => .error .unknownArgument
    | some o =>
      match o.answer?, r with
      | some u, _ => s.answer u
      | none, [] => s.next (.waiting o)
      | none, '=' :: r => s.attach o (String.ofList r)
      | none, r => s.attach o (String.ofList r)

/-- Reads an operand. -/
def readOperand (l : Level) (s : Reading) (arg : String) : Except Usage Reading :=
  match l.operands[s.operandCount]? with
  | some kind => s.next (.operand kind arg)
  | none => .error (if l.hasVerbs then .unknownVerb else .unknownArgument)

/-- Reads an argument that is not a verb. -/
def readArgument (l : Level) (s : Reading) (arg : String) : Except Usage Reading :=
  match arg.toList, s.pending with
  | '-' :: '-' :: text, _ => l.readLong s text
  | '-' :: c :: text, _ => l.readShort s (c :: text)
  | _, .waiting o => .ok { s with pending := .option o arg }
  | _, _ => l.readOperand s arg

/-- Reads operands after a double dash, where a verb is none. -/
def readRest (l : Level) (s : Reading) : List String → Except Usage Reading
  | [] => .ok s
  | arg :: r =>
    if l.hasVerbs ∧ (arg = "help" ∨ (Verb.ofName? arg).isSome) then .error .unknownArgument
    else
      match l.readOperand s arg with
      | .error e => .error e
      | .ok s => l.readRest s r

/-- A verb, if one may stand here. -/
def verb? (l : Level) (s : Reading) (arg : String) : Option Verb :=
  match s.pending with
  | .waiting _ => none
  | _ => if l.hasVerbs then Verb.ofName? arg else none

/-- Whether an argument asks for help in the manner of a verb. -/
def asksForHelp (l : Level) (s : Reading) (arg : String) : Bool :=
  match s.pending with
  | .waiting _ => false
  | _ => l.hasVerbs && arg == "help"

/-- What to say to someone who asks for help on these subjects. -/
def helpOn : List String → Usage
  | [] => .help
  | [subject] =>
    if subject = "help" ∨ (Verb.ofName? subject).isSome then .help else .unknownVerb
  | _ => .unknownVerb

/-- Reads arguments, up to a verb; gives the verb and what stands after it. -/
def read (l : Level) (s : Reading) :
    List String → Except Usage (Reading × Option (Verb × List String))
  | [] => .ok (s, none)
  | arg :: r =>
    match l.verb? s arg with
    | some v => .ok (s, some (v, r))
    | none =>
      if l.asksForHelp s arg then .error (helpOn r)
      else if arg = "--" then (l.readRest s r).map fun s => (s, none)
      else
        match l.readArgument s arg with
        | .error e => .error e
        | .ok s => l.read s r

/-- Reads the arguments after a verb. -/
def readAll (l : Level) (args : List String) : Except Usage Given := do
  let (s, _) ← l.read .start args
  let g ← s.settle
  if g.operands.length < l.required then .error .missingArgument
  else if !g.apis.isEmpty && g.service.isNone then .error .missingArgument
  else return g

end Level

/-! ### Requests -/

/-- The command of a verb and what is given with it. -/
def ofGiven (v : Verb) (g : Given) : Command :=
  let first := g.operands.headD ""
  match v with
  | .test => test g.operands.head?
  | .getConfig => getConfig first
  | .getAdminConfig => getAdminConfig first
  | .getConfigs => getConfigs first
  | .getContextKeys => getContextKeys first
  | .setContextKeys => setContextKeys first (g.operands.getD 1 "")
  | .listAuthorizations => listAuthorizations g.service g.apis
  | .listActions => listActions g.service

end Command

open Command

/-- The request of a command line.  The file of settings may be named before and after the verb;
what stands after it counts. -/
def Request.ofArguments (args : List String) : Except Usage Request := do
  match ← Level.root.read .start args with
  | (s, some (v, rest)) =>
    let g ← (Level.ofVerb v).readAll rest
    let before ← s.settle
    return ⟨ofGiven v g, (g.settings <|> before.settings).getD Request.usualPath⟩
  | (s, none) =>
    let before ← s.settle
    .error (if before.isNothing then .nothing else .noVerb)

end RealmRegistry
