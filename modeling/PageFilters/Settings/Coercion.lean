import PageFilters.Data.Basic
import PageFilters.Settings.Basic

namespace PageFilters.Settings

def lowerCase (s : String) : String := s.map Char.toLower

def isTrueWord (s : String) : Bool := ["true", "on", "yes"].contains (lowerCase s)

def isFalseWord (s : String) : Bool := ["false", "off", "no"].contains (lowerCase s)

/-- A float as a text. A whole one is written like an integer. -/
def floatText (x : Float) : String :=
  if x == x.floor && x.abs < 1e19 then
    (if x < 0 || 1 / x < 0 then "-" else "") ++ toString x.abs.toUInt64.toNat
  else toString x

/-- A setting that is a text, from a value that can be written as one. -/
def text? : Data → Option String
  | .text s => some s
  | .moment s => some s
  | .boolean b => some (if b then "true" else "false")
  | .integer n => some (toString n)
  | .float x => some (floatText x)
  | _ => none

/-- A setting that is a switch. Numbers other than zero are on. -/
def boolean? : Data → Option Bool
  | .boolean b => some b
  | .integer n => some (n != 0)
  | .float x => some (x != 0)
  | .text s =>
    if isTrueWord s || s == "1" then some true
    else if isFalseWord s || s == "0" then some false
    else none
  | _ => none

/-- A setting that is a count. Floats are rounded, a half away from zero, and kept within 64
bits. -/
def count? : Data → Option Nat
  | .integer n => if n < 0 then none else some n.toNat
  | .boolean b => some (if b then 1 else 0)
  | .float x => some x.round.toUInt64.toNat
  | .text s =>
    if isTrueWord s then some 1
    else if isFalseWord s then some 0
    else Text.unsigned? s.toList
  | _ => none

/-- A value that may be left open, in which case it reads as `null` or is absent. -/
def optional? {α : Type} (read : Data → Option α) : Option Data → Option (Option α)
  | none => some none
  | some .null => some none
  | some d => (read d).map some

/-- The values of a section in the order of `names`, from a table or from an array that lists them
by position. -/
def record? (names : List String) : Option Data → Option (List (Option Data))
  | none => some (names.map fun _ => none)
  | some (.table fields) => some (names.map fun name => (Data.table fields).field? name)
  | some (.array items) => some (names.mapIdx fun i _ => items[i]?)
  | some _ => none

/-- The draft that merged sources hold. Keys that mean nothing here are passed over. -/
def draft? (d : Data) : Option Draft := do
  let [level, json] ← record? ["level", "json"] (d.field? "logging") | none
  let [enabled, capacity, ttlSeconds] ←
    record? ["enabled", "capacity", "default_ttl_seconds"] (d.field? "cache") | none
  let level ← optional? text? level
  let json ← optional? boolean? json
  let enabled ← optional? boolean? enabled
  let capacity ← optional? count? capacity
  let ttlSeconds ← optional? count? ttlSeconds
  return { level, json, enabled, capacity, ttlSeconds }

end PageFilters.Settings
