import PageFilters.Marker

namespace PageFilters

/-- Why a filter name or its arguments did not resolve. -/
inductive FilterError where
  | unknown (name list : String)
  | invalidArgument (name reason : String)
deriving DecidableEq, Repr

def FilterError.message : FilterError → String
  | unknown name list => s!"unknown filter `{name}` in filter list `{list}`"
  | invalidArgument name reason => s!"invalid argument for filter `{name}`: {reason}"

/-- Why content did not render. -/
inductive RenderError where
  | filter (error : FilterError)
  /-- The producer drained at `position` in a flush failed with `source`. -/
  | deferredProducer (marker : Marker) (position : Nat) (source : RenderError)
  | component (message : String)
  | requestFinished
deriving DecidableEq, Repr

namespace RenderError

def message : RenderError → String
  | filter error => error.message
  | deferredProducer _ position _ => s!"deferred producer #{position} failed"
  | component message => s!"component failed: {message}"
  | requestFinished => "request already finished"

/-- The error that made this one happen. -/
def source? : RenderError → Option RenderError
  | deferredProducer _ _ source => some source
  | _ => none

/-- The failure behind all deferred producers that report it. -/
def rootCause : RenderError → RenderError
  | deferredProducer _ _ source => source.rootCause
  | error => error

end RenderError

end PageFilters
