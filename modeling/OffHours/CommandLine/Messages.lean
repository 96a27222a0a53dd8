import OffHours.CommandLine.Arguments
import OffHours.Settings.Override

/-!
# Help and faults of the command line

The texts that the command line shows on its own.
-/

namespace OffHours.CommandLine

/-- The name of the program. -/
def programName : String := "autoshutdown"

/-- The text for the version. -/
def versionText : String := programName ++ " 1.0.0\n"

/-- Where the settings are when nothing is said. -/
def defaultDirectory : String := "config"

/-- The help. It shows the variable with the directory and its value. -/
def helpText (environment : Environment) : String :=
  "Start or deallocate virtual machines according to their schedule tags\n\nUsage: " ++
    programName ++ " [OPTIONS]\n\nOptions:\n" ++
    "      --config-dir <CONFIG_DIR>  Directory holding main.toml and secrets.toml [env: " ++
    Environment.directory ++ "=" ++ (environment Environment.directory).getD "" ++
    "] [default: " ++ defaultDirectory ++ "]\n" ++
    "      --simulate                 Log intended actions without issuing them " ++
    "(also enabled by \x60simulate = true\x60)\n" ++
    "  -h, --help                     Print help\n" ++
    "  -V, --version                  Print version\n"

/-- The line about the usage; it shows the options that were given. -/
def usageLine (given : List Flag) : String :=
  let shown := if given.isEmpty then ["[OPTIONS]"] else given.map Flag.written
  "\n\nUsage: " ++ " ".intercalate (programName :: shown)

/-- What a fault says, and the line about the usage. -/
def UsageFault.statement : UsageFault → String
  | unexpected argument similar given =>
    "unexpected argument '" ++ argument ++ "' found" ++
      (similar.elim "" fun flag =>
        "\n\n  tip: a similar argument exists: '--" ++ flag.name ++ "'") ++ usageLine given
  | needlessValue value flag given =>
    "unexpected value '" ++ value ++ "' for '" ++ flag.written ++
      "' found; no more were expected" ++ usageLine given
  | repeated flag =>
    "the argument '" ++ flag.written ++ "' cannot be used multiple times" ++ usageLine []
  | missingValue =>
    "a value is required for '" ++ Flag.directory.written ++ "' but none was supplied"

/-- The message about a fault. -/
def UsageFault.message (fault : UsageFault) : String :=
  "error: " ++ fault.statement ++ "\n\nFor more information, try '--help'.\n"

end OffHours.CommandLine
