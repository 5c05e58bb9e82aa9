import PageFilters.Text.Terminal

namespace PageFilters

/-- The parts of the command line: the program itself and its subcommands. -/
inductive Scope where
  | program
  | render
  | filters
deriving DecidableEq, Repr

/-- Why a command line was not taken as a command. -/
inductive UsageError where
  /-- Help was asked for; on the `help` subcommand itself if there is no scope. -/
  | help (scope : Option Scope)
  | version
  /-- Nothing was given at all. -/
  | noArguments
  | missingSubcommand
  | invalidSubcommand
  | missingArgument
  | unknownArgument
  /-- A value is not one of those that its option takes. -/
  | malformedValue
  /-- A value is missing, or empty where it must not be. -/
  | emptyValue
  /-- An option is given twice. -/
  | conflict
  /-- A value is given to an option that takes none. -/
  | surplusValue
deriving DecidableEq, Repr

namespace Usage

def configVariable : String := "MASON_FILTER_CONFIG_FILE"

def versionText : String := "mason-filter 0.1.0\n"

/-- Characters in front of the help on an option of the program. -/
def helpColumn : Nat := 28

/-- A text that goes on in the column of the help after each of its line feeds. -/
def indented (s : String) : String :=
  String.ofList <| s.toList.flatMap fun c =>
    if c = '\n' then '\n' :: List.replicate helpColumn ' ' else [c]

/-- A text that terminals show in bold letters. -/
def bold (s : String) : String := "\x1b[1m" ++ s ++ "\x1b[0m"

/-- The help on the program, with what shows in bold letters. -/
def programHelp (configFile : Option String) : String :=
  "Render filtered page documents with deferred content\n" ++
  "\n" ++
  bold "Usage:" ++ " " ++ bold "mason-filter" ++ " [OPTIONS] <COMMAND>\n" ++
  "\n" ++
  bold "Commands:" ++ "\n" ++
  "  " ++ bold "render" ++ "   Render a TOML page document to stdout or a file\n" ++
  "  " ++ bold "filters" ++ "  List the filters available to page documents\n" ++
  "  " ++ bold "help" ++ "     Print this message or the help of the given subcommand(s)\n" ++
  "\n" ++
  bold "Options:" ++ "\n" ++
  "      " ++ bold "--config-file" ++ " <PATH>  Optional path to a configuration file " ++
  "[env: MASON_FILTER_CONFIG_FILE=" ++ indented (configFile.getD "") ++ "]\n" ++
  "  " ++ bold "-h" ++ ", " ++ bold "--help" ++ "                Print help\n" ++
  "  " ++ bold "-V" ++ ", " ++ bold "--version" ++ "             Print version\n"

def renderHelp : String :=
  "Render a TOML page document to stdout or a file\n" ++
  "\n" ++
  "Usage: mason-filter render [OPTIONS] <FILE>\n" ++
  "\n" ++
  "Arguments:\n" ++
  "  <FILE>  Page document to render\n" ++
  "\n" ++
  "Options:\n" ++
  "      --log-level <LEVEL>\n" ++
  "          Override the base log level (trace|debug|info|warn|error)\n" ++
  "      --log-json <BOOL>\n" ++
  "          Toggle JSON logging [possible values: true, false]\n" ++
  "      --cache-enabled <BOOL>\n" ++
  "          Enable or disable the fragment cache used by the `Cache` filter " ++
  "[possible values: true, false]\n" ++
  "      --cache-capacity <COUNT>\n" ++
  "          Override the maximum number of cached fragments\n" ++
  "      --cache-default-ttl-seconds <SECONDS>\n" ++
  "          Override the expiry applied when a `Cache` filter sets none\n" ++
  "  -o, --output <PATH>\n" ++
  "          Write the rendered page here instead of stdout\n" ++
  "  -h, --help\n" ++
  "          Print help\n"

def filtersHelp : String :=
  "List the filters available to page documents\n" ++
  "\n" ++
  "Usage: mason-filter filters [OPTIONS]\n" ++
  "\n" ++
  "Options:\n" ++
  "      --log-level <LEVEL>  Override the base log level (trace|debug|info|warn|error)\n" ++
  "      --log-json <BOOL>    Toggle JSON logging [possible values: true, false]\n" ++
  "      --json               Print the filter list as JSON\n" ++
  "  -h, --help               Print help\n"

def helpHelp : String :=
  "Print this message or the help of the given subcommand(s)\n" ++
  "\n" ++
  "Usage: mason-filter help [COMMAND]...\n" ++
  "\n" ++
  "Arguments:\n" ++
  "  [COMMAND]...  Print help for the subcommand(s)\n"

/-- The help text of a scope; the program's names the value of the variable that it reads. -/
def helpText (configFile : Option String) : Option Scope → String
  | some .program => Text.withoutControls (programHelp configFile)
  | some .render => renderHelp
  | some .filters => filtersHelp
  | none => helpHelp

end Usage

end PageFilters
