import PageFilters.Cache
import PageFilters.Queue
import PageFilters.Registry.Basic
import PageFilters.Text.Substitute

namespace PageFilters

/-- The rendering of one page. -/
structure Request where
  filters : Registry
  markers : MarkerSource
  /-- Text rendered since the last flush. -/
  buffer : String := ""
  /-- Text emitted by completed flushes. -/
  output : String := ""
  queue : Queue := {}
  finished : Bool := false

def Request.snapshot (r : Request) : Snapshot where
  buffer := r.buffer
  output := r.output
  pending := r.queue.size
  phase := r.queue.phase
  finished := r.finished

/-- What happens to producers, buffers and cached fragments. -/
inductive Event where
  | registered (ticket : Nat)
  | started (ticket : Nat)
  /-- The text of the producer took the place of its marker. -/
  | resolved (ticket : Nat)
  /-- The marker of the producer was not in the buffer. -/
  | markerMissing (ticket : Nat)
  | failed (ticket : Nat)
  | discarded (ticket : Nat)
  | flushed
  | cacheHit (key : String)
  | cacheMiss (key : String)
  | cacheEvicted (key : String)
deriving DecidableEq, Repr

/-- The name under which events of this kind are counted, if they are. -/
def Event.metric? : Event → Option String
  | registered _ => some "mason_defer_registered_total"
  | resolved _ => some "mason_defer_resolved_total"
  | markerMissing _ => some "mason_defer_marker_missing_total"
  | flushed => some "mason_flush_ms"
  | cacheHit _ => some "mason_cache_hit_total"
  | cacheMiss _ => some "mason_cache_miss_total"
  | cacheEvicted _ => some "mason_cache_evict_total"
  | _ => none

/-- A request with all that its content can reach. -/
structure State where
  request : Request
  cache : Cache := .null
  /-- Captured texts by the names of their slots. -/
  slots : Std.TreeMap String String := ∅
  /-- What happened so far, the latest first. -/
  journal : List Event := []

namespace State

def record (s : State) (e : Event) : State := { s with journal := e :: s.journal }

def print (s : State) (text : String) : State :=
  { s with request.buffer := s.request.buffer ++ text }

def slot (s : State) (name : String) : String := s.slots.getD name ""

def writeSlot (s : State) (name text : String) : State :=
  { s with slots := s.slots.insert name text }

/-- Makes sure that the slot exists. -/
def openSlot (s : State) (name : String) : State := s.writeSlot name (s.slot name)

def cacheGet (s : State) (key : String) : Option String × State :=
  match s.cache with
  | .null => (none, s)
  | .memory m =>
    match m.get key with
    | (some value, m) => (some value, { s with cache := .memory m }.record (.cacheHit key))
    | (none, m) => (none, { s with cache := .memory m }.record (.cacheMiss key))

def cacheSet (s : State) (key value : String) (ttl : Option Nat) : State :=
  match s.cache with
  | .null => s
  | .memory m =>
    match m.set key value ttl with
    | (some evicted, m) => { s with cache := .memory m }.record (.cacheEvicted evicted.key)
    | (none, m) => { s with cache := .memory m }

def cacheInvalidate (s : State) (key : String) : State :=
  { s with cache := s.cache.change (·.invalidate key) }

def cacheClear (s : State) : State := { s with cache := s.cache.change MemoryCache.clear }

/-- Registers a producer for the next flush. -/
def defer (s : State) (producer : Content) : Except RenderError Marker × State :=
  if s.request.finished then (.error .requestFinished, s)
  else
    let (marker, markers) := s.request.markers.next
    let queue := s.request.queue.push marker producer
    (.ok marker,
      { s with request := { s.request with markers, queue } }.record (.registered queue.registered))

/-- Takes the producer that has waited longest, which is about to run. -/
def next? (s : State) : Option (Pending × State) :=
  match s.request.queue.next? with
  | none => none
  | some (p, queue) => some (p, { s with request.queue := queue }.record (.started p.ticket))

def finishDrain (s : State) : State := { s with request.queue := s.request.queue.finishDrain }

/-- Gives up the drain after the producer with this ticket failed. -/
def abandon (s : State) (ticket : Nat) : State :=
  let dropped := s.request.queue.pending.map fun p => Event.discarded p.ticket
  { s with
    request.queue := s.request.queue.abandon
    journal := dropped.reverse ++ .failed ticket :: s.journal }

/-- Puts the text of a producer in place of its marker. -/
def substitute (s : State) (p : Pending) (text buffer : String) : String × State :=
  match Text.substituteFirst p.marker.text text buffer with
  | some buffer => (buffer, s.record (.resolved p.ticket))
  | none => (buffer, s.record (.markerMissing p.ticket))

/-- Resolves a call in the registry of the request, which opens the slots that it names. -/
def resolve (s : State) (call : Call) : Except FilterError (List Filter) × State :=
  (s.request.filters.resolve call, (s.request.filters.opens call).foldl openSlot s)

end State

end PageFilters
