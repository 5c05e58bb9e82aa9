import Std.Data.TreeMap
import PageFilters.Filter
import PageFilters.PipeList

namespace PageFilters

/-- Builds the filters that a name stands for from the arguments of a call. -/
abbrev Factory := List Argument → Except FilterError (List Filter)

/-- What is registered under a name. -/
structure Registration where
  summary : String
  factory : Factory
  /-- The capture slots that a call opens. -/
  opens : List Argument → List String := fun _ => []

/-- The filters that templates may use, by name. -/
structure Registry where
  entries : Std.TreeMap String Registration := ∅

namespace Registry

/-- The registrations in the order of their names. -/
def toList (r : Registry) : List (String × Registration) := r.entries.toList

def names (r : Registry) : List String := r.entries.keys

def size (r : Registry) : Nat := r.entries.size

def isEmpty (r : Registry) : Bool := r.entries.isEmpty

def contains (r : Registry) (name : String) : Bool := r.entries.contains name

def get? (r : Registry) (name : String) : Option Registration := r.entries[name]?

/-- Names and summaries in the order of the names. -/
def describe (r : Registry) : List (String × String) :=
  r.toList.map fun (name, registration) => (name, registration.summary)

/-- The registry as a value for logs. -/
def display (r : Registry) : String :=
  "FilterRegistry \x7b filters: [" ++ ", ".intercalate (r.names.map Text.quoted) ++ "] \x7d"

def insert (r : Registry) (name : String) (registration : Registration) : Registry :=
  ⟨r.entries.insert name registration⟩

def register (r : Registry) (name summary : String) (factory : Factory) : Registry :=
  r.insert name { summary, factory }

end Registry

/-- Filters under `name` for a call without arguments; a call with some is refused. -/
def Factory.withoutArguments (name : String) (filters : List Filter) : Factory := fun args =>
  if args.isEmpty then .ok filters
  else .error (.invalidArgument name s!"expected no arguments, got {args.length}")

namespace Registry

def registerSimple (r : Registry) (name summary : String) (f : String → String) : Registry :=
  r.register name summary (.withoutArguments name [.ofText f])

/-- Registers a filter with a body that may use the arguments of the call. -/
def defineBlock (r : Registry) (name summary : String) (body : List Argument → Content) :
    Registry :=
  r.register name summary fun args => .ok [.dynamic (body args)]

/-- Registers under `name` what is registered under `target` at present. -/
def addAlias (r : Registry) (name target : String) : Except FilterError Registry :=
  match r.get? target with
  | some registration => .ok (r.insert name registration)
  | none => .error (.unknown target name)

/-- The filters that `name` stands for; `list` is what an error about an unknown name shows. -/
def resolveIn (r : Registry) (list name : String) (args : List Argument) :
    Except FilterError (List Filter) :=
  match r.get? name with
  | some registration => registration.factory args
  | none => .error (.unknown name list)

def resolveNamed (r : Registry) (name : String) (args : List Argument) :
    Except FilterError (List Filter) :=
  r.resolveIn name name args

/-- The filters of all names in the list, in its order. -/
def resolvePipe (r : Registry) (list : String) : Except FilterError (List Filter) := do
  let names ← PipeList.parse list
  let filters ← names.mapM fun name => r.resolveIn (Text.trim list) name []
  return filters.flatten

def resolve (r : Registry) : Call → Except FilterError (List Filter)
  | .named name args => r.resolveNamed name args
  | .piped list => r.resolvePipe list

def opensNamed (r : Registry) (name : String) (args : List Argument) : List String :=
  match r.get? name with
  | some registration => registration.opens args
  | none => []

/-- The slots opened by the names of a pipe list up to the first that does not resolve. -/
def opensPiped (r : Registry) : List String → List String
  | [] => []
  | name :: names =>
    r.opensNamed name [] ++
      match r.resolveNamed name [] with
      | .ok _ => r.opensPiped names
      | .error _ => []

/-- The capture slots that resolving a call opens. -/
def opens (r : Registry) : Call → List String
  | .named name args => r.opensNamed name args
  | .piped list =>
    match PipeList.parse list with
    | .ok names => r.opensPiped names
    | .error _ => []

end Registry

end PageFilters
