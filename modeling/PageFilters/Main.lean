import PageFilters.Program

namespace PageFilters

/-- The content of a file, or nothing for a path that leads to no readable file. -/
def readFile? (path : String) : IO (Option (String × ByteArray)) := do
  try
    return some (path, ← IO.FS.readBinFile path)
  catch _ =>
    return none

/-- A variable and its value around the first equals sign. -/
def splitVariable (entry : List Char) : String × String :=
  (String.ofList (entry.takeWhile (· != '=')),
    String.ofList ((entry.dropWhile (· != '=')).drop 1))

/-- The variables that the system keeps for this process. -/
def readEnvironment : IO (List (String × String)) := do
  match (← readFile? "/proc/self/environ").bind fun (_, bytes) => String.fromUTF8? bytes with
  | none => return []
  | some s => return (Text.segments (· == '\x00') s.toList).map splitVariable

/-- Random hexadecimal digits. -/
def randomNonce : IO String := do
  let bytes ← IO.getRandomBytes 16
  return String.ofList <| bytes.toList.flatMap fun b =>
    [Nat.digitChar (b.toNat / 16), Nat.digitChar (b.toNat % 16)]

def describeUsage : UsageError → String
  | .noArguments => Usage.programHelp none
  | .missingSubcommand => "error: a subcommand is missing\n"
  | .invalidSubcommand => "error: there is no such subcommand\n"
  | .missingArgument => "error: the page to render is missing\n"
  | .unknownArgument => "error: an argument is not known\n"
  | .malformedValue => "error: a value is not of the kind that its option takes\n"
  | .emptyValue => "error: a value is missing\n"
  | .conflict => "error: an option is given twice\n"
  | .surplusValue => "error: a value is given to an option that takes none\n"
  | .help _ => ""
  | .version => ""

end PageFilters

open PageFilters in
def main (args : List String) : IO UInt32 := do
  let environment ← readEnvironment
  let nonce ← randomNonce
  let paths := Program.inputs { files := fun _ => none, environment, nonce } args
  let contents ← paths.filterMapM readFile?
  let outcome := Program.run { files := fun path => contents.lookup path, environment, nonce } args
  match outcome with
  | .print text =>
    let stdout ← IO.getStdout
    stdout.putStr text
    stdout.flush
    return outcome.code.toUInt32
  | .write path text =>
    try
      IO.FS.writeFile path text
      return outcome.code.toUInt32
    catch e =>
      let error := AppError.io (toString e)
      IO.eprintln (": ".intercalate (Failure.app error).messages)
      return (Program.Outcome.fail error).code.toUInt32
  | .usage error =>
    IO.eprint (describeUsage error)
    return outcome.code.toUInt32
  | .fail error =>
    IO.eprintln (": ".intercalate (Failure.app error).messages)
    return outcome.code.toUInt32
