import PageFilters.Cache
import PageFilters.Settings.Level

namespace PageFilters

/-- Why there are no settings. -/
inductive LoadError where
  /-- A source is missing, malformed or holds values of the wrong kind. -/
  | build
  | invalid (key reason : String)
deriving DecidableEq, Repr

def LoadError.message : LoadError → String
  | build => "failed to build configuration"
  | invalid key reason => s!"invalid configuration for `{key}`: {reason}"

/-- Settings of which each may be left open, not checked yet. -/
structure Draft where
  level : Option String := none
  json : Option Bool := none
  enabled : Option Bool := none
  capacity : Option Nat := none
  ttlSeconds : Option Nat := none
deriving DecidableEq, Repr

/-- A draft laid over another one: what it leaves open stays. -/
def Draft.overlay (d below : Draft) : Draft where
  level := d.level <|> below.level
  json := d.json <|> below.json
  enabled := d.enabled <|> below.enabled
  capacity := d.capacity <|> below.capacity
  ttlSeconds := d.ttlSeconds <|> below.ttlSeconds

/-- How log lines are written. -/
inductive LogFormat where
  | compact
  | json
deriving DecidableEq, Repr

/-- Settings that have been checked. -/
structure Settings where
  level : Level
  format : LogFormat
  enabled : Bool
  capacity : Nat
  ttlSeconds : Option Nat
deriving DecidableEq, Repr

namespace Settings

def levelReason : String :=
  "failed to parse: error parsing level filter: expected one of \"off\", \"error\", \"warn\", " ++
    "\"info\", \"debug\", \"trace\", or a number 0-5"

def checkLevel : Option String → Except LoadError Level
  | none => .ok .warn
  | some s =>
    match Level.ofText? s with
    | some level => .ok level
    | none => .error (.invalid "logging.level" levelReason)

def checkCapacity (capacity : Option Nat) : Except LoadError Nat :=
  if capacity.getD 1024 = 0 then
    .error (.invalid "cache.capacity" "must be greater than zero and fit in usize")
  else .ok (capacity.getD 1024)

def checkTtl (seconds : Option Nat) : Except LoadError (Option Nat) :=
  if seconds = some 0 then
    .error (.invalid "cache.default_ttl_seconds" "must be greater than zero")
  else .ok seconds

/-- The settings of a draft, with defaults for what it leaves open. -/
def ofDraft (d : Draft) : Except LoadError Settings := do
  let level ← checkLevel d.level
  let capacity ← checkCapacity d.capacity
  let ttlSeconds ← checkTtl d.ttlSeconds
  return {
    level
    format := if d.json.getD false then .json else .compact
    enabled := d.enabled.getD true
    capacity
    ttlSeconds }

def cacheConfig (s : Settings) : CacheConfig where
  enabled := s.enabled
  capacity := s.capacity
  defaultTtl := s.ttlSeconds.map (Clock.second * ·)

end Settings

end PageFilters
