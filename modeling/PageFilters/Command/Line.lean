import PageFilters.Command.Basic

namespace PageFilters

/-- The values gathered from a command line. -/
abbrev ParamValues := List (Param × ParamValue)

namespace ParamValues

def text? (values : ParamValues) (p : Param) : Option String :=
  match values.lookup p with
  | some (.text s) => some s
  | _ => none

def boolean? (values : ParamValues) (p : Param) : Option Bool :=
  match values.lookup p with
  | some (.boolean b) => some b
  | _ => none

def count? (values : ParamValues) (p : Param) : Option Nat :=
  match values.lookup p with
  | some (.count n) => some n
  | _ => none

end ParamValues

/-- A command line read up to some point. -/
structure Scan where
  values : ParamValues := []
  /-- The parameter met last, with its value if that has come; it is checked with the next one. -/
  pending : Option (Param × Option String) := none
  /-- Whether two dashes have ended the options. -/
  onlyArguments : Bool := false
deriving DecidableEq, Repr

namespace Scan

/-- Takes a value; no parameter takes two. -/
def accept (s : Scan) (p : Param) (value : Option String) : Except UsageError Scan :=
  match value with
  | none => .error .emptyValue
  | some text =>
    if (s.values.lookup p).isSome then .error .conflict
    else do
      let value ← p.read text
      return { s with values := s.values ++ [(p, value)] }

/-- Takes the value that is pending. -/
def settle (s : Scan) : Except UsageError Scan :=
  match s.pending with
  | none => .ok s
  | some (p, value) => { s with pending := none }.accept p value

def isAwaiting (s : Scan) : Bool :=
  match s.pending with
  | some (_, none) => true
  | _ => false

/-- A parameter whose value, if it is attached to its name, is taken at once. -/
def param (s : Scan) (p : Param) (attached : Option String) : Except UsageError Scan := do
  let s ← s.settle
  match attached with
  | some text => s.accept p (some text)
  | none => return { s with pending := some (p, none) }

/-- An option after two dashes. -/
def long (scope : Scope) (s : Scan) (body : List Char) : Except UsageError Scan :=
  let name := String.ofList (body.takeWhile (· != '='))
  let attached := (body.dropWhile (· != '=')).tail?.map String.ofList
  if name = "help" || (name = "version" && scope = .program) then
    if attached.isSome then .error .surplusValue
    else s.settle >>= fun _ => .error (if name = "help" then .help (some scope) else .version)
  else
    match Param.ofLong? scope name with
    | none => .error .unknownArgument
    | some .json => if attached.isSome then .error .surplusValue else s.param .json (some "true")
    | some p => s.param p attached

/-- An option after one dash. The text right behind its letter, or behind an equals sign after
that, is its value. -/
def short (scope : Scope) (s : Scan) : List Char → Except UsageError Scan
  | [] => .ok s
  | c :: cs =>
    if c = 'h' then s.settle >>= fun _ => .error (.help (some scope))
    else if c = 'V' && scope = .program then s.settle >>= fun _ => .error .version
    else
      match Param.ofShort? scope c, cs with
      | none, _ => .error .unknownArgument
      | some p, [] => s.param p none
      | some p, '=' :: cs => s.param p (some (String.ofList cs))
      | some p, cs => s.param p (some (String.ofList cs))

/-- The end of a subcommand's arguments, or of the program's if there is no subcommand. -/
def finish (s : Scan) : Except UsageError ParamValues := s.settle.map Scan.values

end Scan

namespace Command

def logging (values : ParamValues) : Draft where
  level := values.text? .logLevel
  json := values.boolean? .logJson

/-- The command that the values given to a subcommand make. -/
def ofValues (scope : Scope) (values : ParamValues) : Except UsageError Command :=
  match scope with
  | .render =>
    match values.text? .file with
    | none => .error .missingArgument
    | some file =>
      .ok (.render file (values.text? .output)
        { logging values with
          enabled := values.boolean? .cacheEnabled
          capacity := values.count? .cacheCapacity
          ttlSeconds := values.count? .cacheTtl })
  | .filters => .ok (.filters ((values.boolean? .json).getD false) (logging values))
  | .program => .error .missingSubcommand

/-- An argument of a subcommand that is no option: the page to render. -/
def argument (scope : Scope) (s : Scan) (arg : String) : Except UsageError Scan :=
  let taken := (s.values.lookup .file).isSome || s.pending.any fun (p, _) => p == .file
  if scope = .render && !taken then do
    let s ← s.settle
    return { s with pending := some (.file, some arg) }
  else .error .unknownArgument

/-- One argument of a subcommand. -/
def step (scope : Scope) (s : Scan) (arg : String) : Except UsageError Scan :=
  if s.onlyArguments then argument scope s arg
  else
    match arg.toList with
    | ['-', '-'] => .ok { s with onlyArguments := true }
    | '-' :: '-' :: body => s.long scope body
    | '-' :: c :: cs => s.short scope (c :: cs)
    | _ =>
      match s.pending with
      | some (p, none) => .ok { s with pending := some (p, some arg) }
      | _ => argument scope s arg

/-- Reads the arguments of a subcommand. -/
def ofArgs (scope : Scope) (args : List String) : Except UsageError Command := do
  let s ← args.foldlM (step scope) {}
  ofValues scope (← s.finish)

end Command

namespace Invocation

def subcommand? (name : String) : Option Scope :=
  if name = "render" then some .render
  else if name = "filters" then some .filters
  else none

/-- What the `help` subcommand shows. -/
def helpOn : List String → UsageError
  | [] => .help (some .program)
  | ["help"] => .help none
  | [name] =>
    match subcommand? name with
    | some scope => .help (some scope)
    | none => .invalidSubcommand
  | _ => .invalidSubcommand

/-- Completes the program's own parameters, for which a variable may stand in. -/
def configPath (fallback : Option String) (s : Scan) : Except UsageError (Option String) := do
  let values ← s.finish
  match values.text? .configFile, fallback with
  | some path, _ => return some path
  | none, some path => if path.isEmpty then throw .emptyValue else return some path
  | none, none => return none

/-- Reads a command line, less the name of the program. -/
def ofArgs (environment : List (String × String)) (args : List String) :
    Except UsageError Invocation :=
  scan {} args
where
  scan (s : Scan) : List String → Except UsageError Invocation
    | [] => do
      let path ← configPath (environment.lookup Usage.configVariable) s
      throw (if path.isSome then .missingSubcommand else .noArguments)
    | arg :: args =>
      if s.onlyArguments then
        if arg = "help" || (subcommand? arg).isSome then .error .unknownArgument
        else .error .invalidSubcommand
      else if !s.isAwaiting && arg = "help" then .error (helpOn args)
      else
        match s.isAwaiting, subcommand? arg with
        | false, some scope => do
          let command ← Command.ofArgs scope args
          let path ← configPath (environment.lookup Usage.configVariable) s
          return { configFile := path, command }
        | _, _ =>
          match arg.toList with
          | ['-', '-'] => scan { s with onlyArguments := true } args
          | '-' :: '-' :: body => do scan (← s.long .program body) args
          | '-' :: c :: cs => do scan (← s.short .program (c :: cs)) args
          | _ =>
            match s.pending with
            | some (p, none) => scan { s with pending := some (p, some arg) } args
            | _ => .error .invalidSubcommand

end Invocation

end PageFilters
