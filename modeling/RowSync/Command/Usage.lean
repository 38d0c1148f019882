import RowSync.Command.Grammar

/-!
What the program says when its command line is not carried out.
-/

set_option autoImplicit false

namespace RowSync

namespace Usage

def programName : String := "pg2mysql"

def versionText : String := programName ++ " 0.1.0"

def text : String :=
  "\n".intercalate [
    "Validate, migrate and verify rows between PostgreSQL and MySQL",
    "",
    "Usage: " ++ programName ++ " [OPTIONS] <COMMAND>",
    "",
    "Commands:",
    "  migrate   Copy rows missing from the destination",
    "  validate  Find source rows that would not fit the destination columns",
    "  verify    Report source rows missing from the destination",
    "  help      Print this message",
    "",
    "Options:",
    "  -c, --config <CONFIG>          Path to the configuration [default: config.yml]",
    "      --output-json              Write the result as JSON",
    "      --log-format <LOG_FORMAT>  text or json [default: text]",
    "      --verbosity <VERBOSITY>    debug, info, warn or error [default: info]",
    "  -h, --help                     Print help",
    "  -V, --version                  Print version"]

end Usage

namespace ArgumentFault

/-- What is wrong with the command line. -/
def reason : ArgumentFault → String
  | help | version | nothing => ""
  | missingCommand => "a command is required"
  | unknownCommand => "there is no such command"
  | unknownArgument => "an argument is not known"
  | invalidValue => "a value is missing or not accepted"
  | surplusValue => "an option that has no value was given one"
  | repeated => "an option was given more than once"

def message : ArgumentFault → String
  | help | nothing => Usage.text
  | version => Usage.versionText
  | fault => "error: " ++ fault.reason ++ "\n\n" ++ Usage.text

/-- The exit status of a command line that is not carried out. -/
def exitCode : ArgumentFault → Nat
  | help | version => 0
  | _ => 2

end ArgumentFault

end RowSync
