import LoadScript.Command.Arguments
import LoadScript.Text.Legible

/-!
# What the command line is told

The help text, the version, and the messages about arguments that do not lead to
a run.
-/

namespace LoadScript.Command

/-- The name and the version of the program. -/
def versionText : Text :=
  "qvs 0.1.0\n".toList

/-- The lines of the help text. -/
def helpLines : List String :=
  [ "Run data-load scripts and print the resulting variables",
    "",
    "Usage: qvs [OPTIONS] [FILE]...",
    "",
    "Arguments:",
    "  [FILE]...  Script files, run in order (`-` reads stdin)",
    "",
    "Options:",
    "  -c, --command <TEXT>       Script text to run after the files",
    "  -D, --define <NAME=VALUE>  Seed a variable before anything runs",
    "  -p, --prelude <FILE>       Run this prelude script first",
    "      --no-prelude           Do not look for a prelude script",
    "      --json                 Print the variable table as JSON",
    "      --strict               Exit with status 2 if any statement produced a diagnostic",
    "  -q, --quiet                Do not print the variable table",
    "  -d, --debug                Enable debug logging",
    "  -h, --help                 Print help",
    "  -V, --version              Print version" ]

/-- The help text. -/
def helpText : Text :=
  helpLines.flatMap fun line => line.toList ++ ['\n']

/-- A text between single quotes. -/
private def inQuotes (text : Text) : Text :=
  '\x27' :: (text ++ ['\x27'])

namespace UsageError

/-- The wording of an error, or nothing when the arguments asked for a text.  What
comes from the arguments is repeated without terminal commands. -/
def wording? : UsageError → Option Text
  | .unknown argument =>
      some ("error: unexpected argument ".toList ++ inQuotes argument.legible ++
        " found".toList)
  | .missingValue holder =>
      some ("error: a value is required for ".toList ++ inQuotes holder ++
        " but none was supplied".toList)
  | .unneededValue switch value =>
      some ("error: unexpected value ".toList ++ inQuotes value.legible ++ " for ".toList ++
        inQuotes switch.shown ++ " found; no more were expected".toList)
  | .repeated switch =>
      some ("error: the argument ".toList ++ inQuotes switch.shown ++
        " cannot be used multiple times".toList)
  | .conflict first second =>
      some ("error: the argument ".toList ++ inQuotes first.shown ++
        " cannot be used with ".toList ++ inQuotes second.shown)
  | .help => none
  | .version => none

/-- The message of an error: its wording up to the first line end, which can only
come from an argument. -/
def message? (error : UsageError) : Option Text :=
  error.wording?.map Text.firstLine

/-- The text that the arguments asked for. -/
def output : UsageError → Text
  | .help => helpText
  | .version => versionText
  | _ => []

/-- The exit status: zero when the arguments asked for a text. -/
def exitStatus (error : UsageError) : Nat :=
  if error.message?.isNone then 0 else 2

end UsageError

end LoadScript.Command
