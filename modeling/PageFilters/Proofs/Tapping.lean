import PageFilters.Proofs.Avoiding
import Mathlib.Data.Option.Basic

namespace PageFilters

/-- A place in a list of filters where a `Tee` stands. -/
structure Tap where
  slot : String
  /-- What the `Tee` wraps. -/
  inner : Content

/-- The wrapped content with the `Tee` around it. -/
def Tap.outer (tap : Tap) : Content := (Filter.tee tap.slot).wrap tap.inner

/-- Content that runs as it is, or that has a tap where it yields. -/
structure Part where
  content : Content
  tapped : Bool

def Part.fill (inner : Content) (p : Part) : Content :=
  if p.tapped then .fill inner p.content else p.content

/-- A producer that waits, by the part that it runs. -/
structure Waiting where
  ticket : Nat
  marker : Marker
  part : Part

def Waiting.pending (inner : Content) (w : Waiting) : Pending :=
  ⟨w.ticket, w.marker, w.part.fill inner⟩

/-- A point of a run. -/
structure Moment where
  state : State
  /-- The texts that the content behind the tap was rendered to so far, the latest first. -/
  texts : List String
  /-- The producers in the queue. -/
  waiting : List Waiting

/-- The same moment in another state. -/
def Moment.goto (m : Moment) (s : State) : Moment := { m with state := s }

/-- The moments that a part of a run passes, and its result with the last of them, if it ends. -/
structure Trace (α : Type) where
  passed : List Moment
  ended : Option (α × Moment)

namespace Trace

variable {α β : Type}

/-- Nothing happens. -/
def pure (a : α) (m : Moment) : Trace α := ⟨[], some (a, m)⟩

/-- A single step to another moment. -/
def step (a : α) (m : Moment) : Trace α := ⟨[m], some (a, m)⟩

def andThen (t : Trace α) (next : α → Moment → Trace β) : Trace β :=
  match t.ended with
  | none => ⟨t.passed, none⟩
  | some (a, m) => ⟨t.passed ++ (next a m).passed, (next a m).ended⟩

end Trace

/-- The parts of a run that leave a content program, moment by moment. -/
structure Observer where
  render : Part → Moment → Trace RenderResult
  drain : Nat → String → Moment → Trace (Except RenderError Unit × String)
  settle : Moment → Trace (Except RenderError Unit)

namespace Observer

section Parts

variable (tap : Tap) (o : Observer)

def flushBuffer (m : Moment) : Trace (Except RenderError Unit) :=
  (Trace.step () (m.goto { m.state with request.buffer := "" })).andThen fun _ m' =>
  (o.drain 0 m.state.request.buffer m').andThen fun
    | (.ok (), buffer), m =>
      .step (.ok ()) (m.goto
        ({ m.state with request.output := m.state.request.output ++ buffer }.record .flushed))
    | (.error error, buffer), m =>
      .step (.error error)
        (m.goto { m.state with request.buffer := buffer ++ m.state.request.buffer })

def flushDeferred (buffer : String) (m : Moment) : Trace RenderResult :=
  (o.drain 0 buffer m).andThen fun (result, buffer) m => .pure (result.map fun () => buffer) m

def finish (m : Moment) : Trace RenderResult :=
  if m.state.request.finished then .pure (.error .requestFinished) m
  else (o.settle m).andThen fun result m =>
    (Trace.step () (m.goto { m.state with request.finished := true })).andThen fun _ m =>
    match result with
    | .ok () =>
      .step (.ok m.state.request.output) (m.goto { m.state with request.output := "" })
    | .error error => .pure (.error error) m

def perform : (op : Op) → Moment → Trace op.Answer
  | .print text, m => .step () (m.goto (m.state.print text))
  | .readSlot slot, m => .step (m.state.slot slot) (m.goto (m.state.openSlot slot))
  | .writeSlot slot text, m => .step () (m.goto (m.state.writeSlot slot text))
  | .cacheGet key, m => .step (m.state.cacheGet key).1 (m.goto (m.state.cacheGet key).2)
  | .cacheSet key value ttl, m => .step () (m.goto (m.state.cacheSet key value ttl))
  | .cacheInvalidate key, m => .step () (m.goto (m.state.cacheInvalidate key))
  | .cacheClear, m => .step () (m.goto m.state.cacheClear)
  | .cacheSize, m => .pure m.state.cache.size m
  | .observe, m => .pure m.state.request.snapshot m
  | .lookup call, m =>
    .step ((m.state.resolve call).1.map fun _ => ()) (m.goto (m.state.resolve call).2)
  | .flushBuffer, m => o.flushBuffer m
  | .flushDeferred buffer, m => o.flushDeferred buffer m
  | .finish, m => o.finish m

def invoke (call : Call) (p : Part) (m : Moment) : Trace RenderResult :=
  match m.state.resolve call with
  | (.ok filters, s) => (Trace.step () (m.goto s)).andThen fun _ m =>
    o.render { p with content := Filter.compose filters p.content } m
  | (.error error, s) => .step (.error (.filter error)) (m.goto s)

def defer (p : Part) (m : Moment) : Trace (Except RenderError Marker) :=
  match m.state.defer (p.fill tap.outer) with
  | (.ok marker, s) =>
    .step (.ok marker)
      { m with state := s, waiting := m.waiting ++ [⟨s.request.queue.registered, marker, p⟩] }
  | (.error error, s) => .step (.error error) (m.goto s)

/-- Runs a content program, with something at hand for where it yields. -/
def runContent (tapped : Bool) (hole : Moment → Trace RenderResult) :
    Content → Moment → Trace RenderResult
  | .done result, m => .pure result m
  | .perform op next, m => (o.perform op m).andThen fun a m => runContent tapped hole (next a) m
  | .defer producer next, m =>
    (defer tap ⟨producer, tapped⟩ m).andThen fun a m => runContent tapped hole (next a) m
  | .yield next, m => (hole m).andThen fun r m => runContent tapped hole (next r) m
  | .invoke call inner next, m =>
    (o.invoke call ⟨inner, tapped⟩ m).andThen fun r m => runContent tapped hole (next r) m

/-- Evaluates the content behind the tap. If it renders to a text, this is noted, and the text goes
into the slot. -/
def evaluate (m : Moment) : Trace RenderResult :=
  (o.runContent tap false (.pure (.ok "")) tap.inner m).andThen fun
    | .ok text, m =>
      .step (.ok text)
        { m with state := m.state.writeSlot tap.slot text, texts := text :: m.texts }
    | .error error, m => .pure (.error error) m

def runPart (p : Part) : Moment → Trace RenderResult :=
  o.runContent tap p.tapped (if p.tapped then o.evaluate tap else .pure (.ok "")) p.content

def runDrain (position : Nat) (buffer : String) (m : Moment) :
    Trace (Except RenderError Unit × String) :=
  match m.state.next? with
  | none => .step (.ok (), buffer) (m.goto m.state.finishDrain)
  | some (p, s) =>
    let part := (m.waiting.head?.map Waiting.part).getD ⟨p.producer, false⟩
    (Trace.step () { m with state := s, waiting := m.waiting.tail }).andThen fun _ m =>
    (o.runPart tap part m).andThen fun
      | .ok text, m =>
        (Trace.step () (m.goto (m.state.substitute p text buffer).2)).andThen fun _ m' =>
        o.drain (position + 1) (m.state.substitute p text buffer).1 m'
      | .error error, m =>
        .step (.error (.deferredProducer p.marker position error), buffer)
          { m with state := m.state.abandon p.ticket, waiting := [] }

def runSettle (m : Moment) : Trace (Except RenderError Unit) :=
  (o.flushBuffer m).andThen fun
    | .error error, m => .pure (.error error) m
    | .ok (), m =>
      if m.state.request.buffer.isEmpty && m.state.request.queue.isEmpty then .pure (.ok ()) m
      else o.settle m

end Parts

/-- All that is seen of runs with a given amount of fuel. -/
def ofFuel (tap : Tap) : Nat → Observer
  | 0 =>
    { render := fun _ _ => ⟨[], none⟩
      drain := fun _ _ _ => ⟨[], none⟩
      settle := fun _ => ⟨[], none⟩ }
  | fuel + 1 =>
    { render := (ofFuel tap fuel).runPart tap
      drain := (ofFuel tap fuel).runDrain tap
      settle := (ofFuel tap fuel).runSettle }

section Calls

variable (tap : Tap) (o : Observer)

def printResult : RenderResult → Moment → Trace RenderResult
  | .ok text, m => .step (.ok "") (m.goto (m.state.print text))
  | .error error, m => .pure (.error error) m

/-- A call on the request that does not come to the tap by itself. -/
def act : Action → Moment → Trace RenderResult
  | .print text, m => .step (.ok "") (m.goto (m.state.print text))
  | .defer producer, m =>
    (defer tap ⟨producer, false⟩ m).andThen fun marker m => .pure (marker.map Marker.text) m
  | .render filters content, m => o.runPart tap ⟨Filter.compose filters content, false⟩ m
  | .filter filters content, m =>
    (o.runPart tap ⟨Filter.compose filters content, false⟩ m).andThen printResult
  | .pipe list text, m =>
    (o.invoke (.piped list) ⟨.literal text, false⟩ m).andThen printResult
  | .flushBuffer, m =>
    (o.flushBuffer m).andThen fun result m => .pure (result.map fun () => "") m
  | .flushDeferred buffer, m => o.flushDeferred buffer m
  | .finish, m => o.finish m

def actAll : List Action → Moment → Trace (List RenderResult)
  | [], m => .pure [] m
  | a :: as, m =>
    (o.act tap a m).andThen fun r m => (actAll as m).andThen fun rs m => .pure (r :: rs) m

end Calls

end Observer

/-- The moment in which a run begins, before there is a tap in anything that waits. -/
def Moment.first (s : State) : Moment :=
  ⟨s, [], s.request.queue.pending.map fun p => ⟨p.ticket, p.marker, p.producer, false⟩⟩

/-- What is seen when content is rendered through filters around the tap, and calls are made on the
request afterwards. -/
def Tap.watch (tap : Tap) (fuel : Nat) (fs : List Filter) (as : List Action) (s : State) :
    Trace (List RenderResult) :=
  (Trace.step () (.first s)).andThen fun _ m =>
  ((Observer.ofFuel tap fuel).runPart tap ⟨Filter.compose fs (.yield .done), true⟩ m).andThen
    fun r m => ((Observer.ofFuel tap fuel).actAll tap as m).andThen fun rs m => .pure (r :: rs) m

end PageFilters
