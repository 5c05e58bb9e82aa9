import PageFilters.Content
import PageFilters.Text.Quoted

namespace PageFilters

/-- A producer that waits for a flush, with the marker that its text replaces. -/
structure Pending where
  /-- The number of producers registered before this one, plus one. -/
  ticket : Nat
  marker : Marker
  producer : Content

/-- A waiting producer as a value for logs. -/
def Pending.display (p : Pending) : String :=
  "DeferEntry \x7b marker: Marker(" ++ Text.quoted p.marker.text ++ "), .. \x7d"

/-- The producers that wait for a flush, in the order of their registration. -/
structure Queue where
  pending : List Pending := []
  phase : Phase := .empty
  /-- The number of producers registered so far. -/
  registered : Nat := 0

namespace Queue

def size (q : Queue) : Nat := q.pending.length

def isEmpty (q : Queue) : Bool := q.pending.isEmpty

def push (q : Queue) (marker : Marker) (producer : Content) : Queue where
  pending := q.pending ++ [⟨q.registered + 1, marker, producer⟩]
  phase := if q.phase = .empty then .accumulating else q.phase
  registered := q.registered + 1

/-- Takes out the producer registered first. -/
def next? (q : Queue) : Option (Pending × Queue) :=
  match q.pending with
  | [] => none
  | p :: pending => some (p, { q with pending, phase := .draining })

/-- Ends a drain that has emptied the queue. -/
def finishDrain (q : Queue) : Queue := { q with phase := .empty }

/-- Drops all producers that wait. -/
def abandon (q : Queue) : Queue := { q with pending := [], phase := .empty }

/-- Abandons what waits and tells how many producers that were. -/
def discard (q : Queue) : Nat × Queue := (q.size, q.abandon)

end Queue

end PageFilters
