import PageFilters.Request

namespace PageFilters

/-- Filters as content names them: by a call that the registry of the request resolves, or
directly. -/
inductive FilterSpec where
  | call (call : Call)
  | given (filter : Filter)
  | capture (slot : String)
  | tee (slot : String)

namespace FilterSpec

/-- The filters of a specification in a registry. -/
def resolve (r : Registry) : FilterSpec → Except FilterError (List Filter)
  | call c => r.resolve c
  | given f => .ok [f]
  | capture slot => .ok [.capture slot]
  | tee slot => .ok [.tee slot]

def opens (r : Registry) : FilterSpec → List String
  | call c => r.opens c
  | given _ => []
  | capture slot => [slot]
  | tee slot => [slot]

/-- The filters of all specifications in order. -/
def resolveAll (r : Registry) (specs : List FilterSpec) : Except FilterError (List Filter) := do
  let filters ← specs.mapM (resolve r)
  return filters.flatten

/-- The slots opened by the specifications up to the first that does not resolve. -/
def opensAll (r : Registry) : List FilterSpec → List String
  | [] => []
  | spec :: specs =>
    spec.opens r ++
      match spec.resolve r with
      | .ok _ => opensAll r specs
      | .error _ => []

/-- Content inside a filter that is known to resolve. -/
def wrap : FilterSpec → Content → Content
  | call c, inner => .invoke c inner .done
  | given f, inner => f.wrap inner
  | capture slot, inner => (Filter.capture slot).wrap inner
  | tee slot, inner => (Filter.tee slot).wrap inner

end FilterSpec

namespace State

def resolveAll (s : State) (specs : List FilterSpec) : Except FilterError (List Filter) × State :=
  (FilterSpec.resolveAll s.request.filters specs,
    (FilterSpec.opensAll s.request.filters specs).foldl openSlot s)

end State

namespace Content

/-- Looks all filters up in order and goes on with the first error, if there is one. -/
def lookups : List FilterSpec → (Option FilterError → Content) → Content
  | [], k => k none
  | .call c :: specs, k => perform (.lookup c) fun
    | .ok () => lookups specs k
    | .error error => k (some error)
  | .given _ :: specs, k => lookups specs k
  | .capture slot :: specs, k => perform (.readSlot slot) fun _ => lookups specs k
  | .tee slot :: specs, k => perform (.readSlot slot) fun _ => lookups specs k

/-- Renders content inside filters, all of which have to resolve before any of it runs. -/
def renderWith (specs : List FilterSpec) (inner : Content) : Content :=
  lookups specs fun
    | none => specs.foldr FilterSpec.wrap inner
    | some error => fail (.filter error)

/-- Prints what `renderWith` renders. -/
def filterWith (specs : List FilterSpec) (inner : Content) : Content :=
  (renderWith specs inner).bind fun text => perform (.print text) fun () => literal ""

/-- Prints a text after the filters of a pipe list. -/
def pipe (list text : String) : Content := filterWith [.call (.piped list)] (literal text)

end Content

end PageFilters
