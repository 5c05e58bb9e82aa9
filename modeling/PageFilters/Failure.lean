import PageFilters.Document
import PageFilters.Settings.Basic

namespace PageFilters

/-- Why the program failed. -/
inductive AppError where
  | config (source : LoadError)
  | document (source : DocumentError)
  /-- Reading or writing failed for the reason given. -/
  | io (reason : String)
  | telemetry (message : String)
  | serialization (message : String)
deriving DecidableEq, Repr

def AppError.message : AppError → String
  | config _ => "failed to load configuration"
  | document source => source.message
  | io _ => "io error"
  | telemetry message => s!"telemetry initialization failed: {message}"
  | serialization message => s!"serialization error: {message}"

/-- Anything that fails, with what made it fail behind it. -/
inductive Failure where
  | filter (error : FilterError)
  | render (error : RenderError)
  | document (error : DocumentError)
  | load (error : LoadError)
  | app (error : AppError)
  /-- A failure of the system, known by its text. -/
  | system (reason : String)
deriving DecidableEq, Repr

namespace Failure

def message : Failure → String
  | filter error => error.message
  | render error => error.message
  | document error => error.message
  | load error => error.message
  | app error => error.message
  | system reason => reason

/-- The failure behind the one that a document reports. -/
def documentSource? : DocumentError → Option Failure
  | .filter _ source => some (filter source)
  | .render _ source => some (render source)
  | .flush source => some (render source)
  | _ => none

/-- The failure right behind this one. One that speaks for another has that one's source. -/
def source? : Failure → Option Failure
  | render error => error.source?.map render
  | document error => documentSource? error
  | app (.config source) => some (load source)
  | app (.document source) => documentSource? source
  | app (.io reason) => some (system reason)
  | _ => none

/-- The number of wrappers around the cause of a render error, plus one. -/
def renderDepth : RenderError → Nat
  | .deferredProducer _ _ source => renderDepth source + 1
  | _ => 1

def documentDepth : DocumentError → Nat
  | .filter _ _ => 2
  | .render _ source => renderDepth source + 1
  | .flush source => renderDepth source + 1
  | _ => 1

/-- A bound on the number of failures in a row. -/
def depth : Failure → Nat
  | render error => renderDepth error
  | document error => documentDepth error
  | app (.document source) => documentDepth source
  | app _ => 2
  | _ => 1

theorem depth_lt_of_source? {f g : Failure} (h : f.source? = some g) : g.depth < f.depth := by
  unfold source? at h
  split at h
  next error =>
    obtain ⟨source, hs, rfl⟩ := Option.map_eq_some_iff.mp h
    cases error <;> simp_all [RenderError.source?, depth, renderDepth]
  next error =>
    cases error <;> simp_all [documentSource?, depth, documentDepth] <;> subst h <;> simp
  next => cases Option.some.inj h; simp [depth]
  next source =>
    cases source <;> simp_all [documentSource?, depth, documentDepth] <;> subst h <;> simp
  next => cases Option.some.inj h; simp [depth]
  next => simp at h

/-- The messages of a failure and of all behind it. -/
def messages (f : Failure) : List String :=
  match _h : f.source? with
  | none => [f.message]
  | some g => f.message :: g.messages
termination_by f.depth
decreasing_by exact depth_lt_of_source? _h

/-- The message of the innermost failure. -/
def root? (f : Failure) : Option String := f.messages.getLast?

end Failure

end PageFilters
