/-
What the program says of itself and of command lines without a request.
-/
import RealmRegistry.Command.Line

namespace RealmRegistry

namespace Command

/-- Pads a name with blanks. -/
def padded (width : Nat) (name : String) : String :=
  String.ofList (name.toList ++ List.replicate (width - name.length) ' ')

/-- A line of a table of names and what they stand for. -/
def helpLine (width : Nat) (name purpose : String) : String :=
  "  " ++ padded width name ++ "  " ++ purpose ++ "\n"

/-- The version. -/
def versionText : String := "realmstore 0.1.1\n"

/-- The form of a command line. -/
def usageLine : String := "Usage: realmstore [OPTIONS] <COMMAND>\n"

/-- What the program can be asked to do. -/
def helpText : String :=
  "Realm-scoped configuration and access-policy store\n\n" ++ usageLine ++ "\nCommands:\n" ++
    String.join (Verb.all.map fun v => helpLine 19 v.name v.purpose) ++
    helpLine 19 "help" "Print this message or the help of the given subcommand(s)" ++
    "\nOptions:\n" ++
    helpLine 21 "-c, --config <CONFIG>"
      ("Configuration file path (defaults to searching standard locations) " ++
        "[default: config.toml]") ++
    helpLine 21 "-h, --help" "Print help" ++
    helpLine 21 "-V, --version" "Print version"

end Command

open Command

/-- What is said of a command line without a request, unless it asks for what it gets. -/
def Usage.message? : Usage → Option String
  | help => none
  | version => none
  | nothing => some helpText
  | noVerb => some ("error: a command is missing\n\n" ++ usageLine)
  | unknownVerb => some ("error: there is no such command\n\n" ++ usageLine)
  | unknownArgument => some ("error: unexpected argument\n\n" ++ usageLine)
  | missingArgument => some ("error: a required argument is missing\n\n" ++ usageLine)
  | emptyValue => some ("error: a value is missing or empty\n\n" ++ usageLine)
  | unknownValue => some ("error: there is no service or API of this name\n\n" ++ usageLine)
  | repeated => some ("error: an option cannot be given twice\n\n" ++ usageLine)
  | surplusValue => some ("error: an option takes no value\n\n" ++ usageLine)

end RealmRegistry
