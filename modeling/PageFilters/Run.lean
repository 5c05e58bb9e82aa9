import PageFilters.Request

namespace PageFilters

/-- How to carry out the parts of a run that leave a content program: other content, a drain of the
queue, and flushes until nothing is left. No answer means that the run needs more fuel. -/
structure Engine where
  render : Content → State → Option (RenderResult × State)
  /-- Drains into a buffer from a position on. -/
  drain : Nat → String → State → Option (Except RenderError Unit × String × State)
  settle : State → Option (Except RenderError Unit × State)

namespace Engine

/-- Moves the buffer to the output after a drain into it. A failed drain leaves the buffer as far
as it came, followed by what was printed meanwhile. -/
def flushBuffer (e : Engine) (s : State) : Option (Except RenderError Unit × State) := do
  let (result, buffer, s) ← e.drain 0 s.request.buffer { s with request.buffer := "" }
  match result with
  | .ok () =>
    return (.ok (), { s with request.output := s.request.output ++ buffer }.record .flushed)
  | .error error =>
    return (.error error, { s with request.buffer := buffer ++ s.request.buffer })

def flushDeferred (e : Engine) (buffer : String) (s : State) : Option (RenderResult × State) := do
  let (result, buffer, s) ← e.drain 0 buffer s
  return (result.map fun () => buffer, s)

/-- Flushes until nothing is left and takes the output. Afterwards the request is finished, also
after a flush that failed. -/
def finish (e : Engine) (s : State) : Option (RenderResult × State) :=
  if s.request.finished then some (.error .requestFinished, s)
  else do
    let (result, s) ← e.settle s
    let s := { s with request.finished := true }
    match result with
    | .ok () => return (.ok s.request.output, { s with request.output := "" })
    | .error error => return (.error error, s)

def perform (e : Engine) : (op : Op) → State → Option (op.Answer × State)
  | .print text, s => some ((), s.print text)
  | .readSlot slot, s => some (s.slot slot, s.openSlot slot)
  | .writeSlot slot text, s => some ((), s.writeSlot slot text)
  | .cacheGet key, s => some (s.cacheGet key)
  | .cacheSet key value ttl, s => some ((), s.cacheSet key value ttl)
  | .cacheInvalidate key, s => some ((), s.cacheInvalidate key)
  | .cacheClear, s => some ((), s.cacheClear)
  | .cacheSize, s => some (s.cache.size, s)
  | .observe, s => some (s.request.snapshot, s)
  | .lookup call, s =>
    let (filters, s) := s.resolve call
    some (filters.map fun _ => (), s)
  | .flushBuffer, s => e.flushBuffer s
  | .flushDeferred buffer, s => e.flushDeferred buffer s
  | .finish, s => e.finish s

/-- Renders content through the filters of a call. -/
def invoke (e : Engine) (call : Call) (inner : Content) (s : State) :
    Option (RenderResult × State) :=
  match s.resolve call with
  | (.ok filters, s) => e.render (Filter.compose filters inner) s
  | (.error error, s) => some (.error (.filter error), s)

/-- Runs a content program step by step. -/
def runContent (e : Engine) : Content → State → Option (RenderResult × State)
  | .done result, s => some (result, s)
  | .perform op next, s => do
    let (answer, s) ← e.perform op s
    runContent e (next answer) s
  | .defer producer next, s =>
    let (marker, s) := s.defer producer
    runContent e (next marker) s
  | .yield next, s => runContent e (next (.ok "")) s
  | .invoke call inner next, s => do
    let (result, s) ← e.invoke call inner s
    runContent e (next result) s

/-- Runs the producers of the queue in turn, those registered meanwhile included, and substitutes
their texts. The first that fails ends the drain. -/
def runDrain (e : Engine) (position : Nat) (buffer : String) (s : State) :
    Option (Except RenderError Unit × String × State) :=
  match s.next? with
  | none => some (.ok (), buffer, s.finishDrain)
  | some (p, s) => do
    let (result, s) ← e.runContent p.producer s
    match result with
    | .ok text =>
      let (buffer, s) := s.substitute p text buffer
      e.drain (position + 1) buffer s
    | .error error =>
      return (.error (.deferredProducer p.marker position error), buffer, s.abandon p.ticket)

/-- Flushes until a flush leaves neither text nor producers behind. -/
def runSettle (e : Engine) (s : State) : Option (Except RenderError Unit × State) := do
  let (result, s) ← e.flushBuffer s
  match result with
  | .error error => return (.error error, s)
  | .ok () =>
    if s.request.buffer.isEmpty && s.request.queue.isEmpty then return (.ok (), s)
    else e.settle s

/-- The engine with a given amount of fuel. A level of fuel goes into each producer drained, each
further flush and each named filter reached. -/
def ofFuel : Nat → Engine
  | 0 =>
    { render := fun _ _ => none
      drain := fun _ _ _ => none
      settle := fun _ => none }
  | fuel + 1 =>
    { render := fun content s => (ofFuel fuel).runContent content s
      drain := fun position buffer s => (ofFuel fuel).runDrain position buffer s
      settle := fun s => (ofFuel fuel).runSettle s }

end Engine

/-- Runs content on a request. -/
def Content.run (fuel : Nat) (content : Content) (s : State) : Option (RenderResult × State) :=
  (Engine.ofFuel fuel).render content s

end PageFilters
