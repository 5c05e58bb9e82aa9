import PageFilters.Text.Digits

namespace PageFilters

/-- From which severity on messages are logged. -/
inductive Level where
  | off
  | error
  | warn
  | info
  | debug
  | trace
deriving DecidableEq, Repr

namespace Level

def name : Level → String
  | off => "off"
  | error => "error"
  | warn => "warn"
  | info => "info"
  | debug => "debug"
  | trace => "trace"

def all : List Level := [off, error, warn, info, debug, trace]

/-- Levels are written by name in any case or by number. Nothing at all means errors only. -/
def ofText? (s : String) : Option Level :=
  match Text.unsigned? s.toList with
  | some n => all[n]?
  | none => if s.isEmpty then some error else all.find? fun l => l.name == s.map Char.toLower

end Level

end PageFilters
