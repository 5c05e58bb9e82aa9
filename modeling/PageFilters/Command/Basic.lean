import PageFilters.Command.Usage
import PageFilters.Settings.Basic

namespace PageFilters

/-- What the program is asked to do. -/
inductive Command where
  | render (file : String) (output : Option String) (overrides : Draft)
  | filters (json : Bool) (overrides : Draft)
deriving DecidableEq, Repr

/-- A command line that was understood. -/
structure Invocation where
  configFile : Option String
  command : Command
deriving DecidableEq, Repr

/-- The settings that a command lays over those of all other sources. Only a command that renders
has a say about the cache. -/
def Command.overrides : Command → Draft
  | render _ _ overrides => overrides
  | filters _ overrides => { level := overrides.level, json := overrides.json }

/-- The things that a command line can give. -/
inductive Param where
  | configFile
  | logLevel
  | logJson
  | cacheEnabled
  | cacheCapacity
  | cacheTtl
  | output
  | json
  | file
deriving DecidableEq, Repr

/-- A value given on the command line. -/
inductive ParamValue where
  | text (value : String)
  | boolean (value : Bool)
  | count (value : Nat)
deriving DecidableEq, Repr

namespace Param

/-- Option names after two dashes. -/
def ofLong? (scope : Scope) (name : String) : Option Param :=
  match scope, name with
  | .program, "config-file" => some configFile
  | .render, "log-level" => some logLevel
  | .render, "log-json" => some logJson
  | .render, "cache-enabled" => some cacheEnabled
  | .render, "cache-capacity" => some cacheCapacity
  | .render, "cache-default-ttl-seconds" => some cacheTtl
  | .render, "output" => some output
  | .filters, "log-level" => some logLevel
  | .filters, "log-json" => some logJson
  | .filters, "json" => some json
  | _, _ => none

/-- Option names after one dash. -/
def ofShort? (scope : Scope) (name : Char) : Option Param :=
  if scope = .render && name = 'o' then some output else none

def booleanOfText? (s : String) : Option Bool :=
  let word := s.map Char.toLower
  if ["y", "yes", "t", "true", "on", "1"].contains word then some true
  else if ["n", "no", "f", "false", "off", "0"].contains word then some false
  else none

/-- The value that a text gives to a parameter. -/
def read (p : Param) (s : String) : Except UsageError ParamValue :=
  match p with
  | logLevel => .ok (.text s)
  | logJson | cacheEnabled | json =>
    match booleanOfText? s with
    | some b => .ok (.boolean b)
    | none => .error .malformedValue
  | cacheCapacity | cacheTtl =>
    match Text.unsigned? s.toList with
    | some n => .ok (.count n)
    | none => .error .malformedValue
  | configFile | output | file => if s.isEmpty then .error .emptyValue else .ok (.text s)

end Param

end PageFilters
