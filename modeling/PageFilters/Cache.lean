namespace PageFilters

/-- A clock that is looked at now and then. -/
structure Clock where
  /-- Nanoseconds since it was started. -/
  now : Nat := 0
  /-- The nanoseconds that pass before each look to come. After the last of them it stands still. -/
  pauses : List Nat := []
deriving DecidableEq, Repr

namespace Clock

/-- A second in nanoseconds. -/
def second : Nat := 1000000000

/-- Time passes, then the clock is looked at. -/
def look (c : Clock) : Clock := ⟨c.now + c.pauses.headD 0, c.pauses.tail⟩

end Clock

/-- A text in the cache. -/
structure Fragment where
  key : String
  value : String
  /-- The time from which it has expired, if it ever does. One that the clock never comes to is as
  good as none. -/
  deadline : Option Nat
deriving DecidableEq, Repr

def Fragment.isExpired (f : Fragment) (now : Nat) : Bool := f.deadline.any (· ≤ now)

/-- A store of bounded size that forgets what was touched longest ago. -/
structure MemoryCache where
  /-- The number of fragments it may hold. -/
  capacity : Nat
  /-- The nanoseconds that a fragment stored without a time to live of its own lives. -/
  defaultTtl : Option Nat
  /-- The fragments, the one touched last in front. -/
  fragments : List Fragment
  clock : Clock
deriving DecidableEq, Repr

namespace MemoryCache

/-- An empty store. A capacity of zero counts as one. -/
def new (capacity : Nat) (defaultTtl : Option Nat) (clock : Clock := {}) : MemoryCache :=
  ⟨max capacity 1, defaultTtl, [], clock⟩

def size (m : MemoryCache) : Nat := m.fragments.length

def isEmpty (m : MemoryCache) : Bool := m.fragments.isEmpty

def find? (m : MemoryCache) (key : String) : Option Fragment :=
  m.fragments.find? fun f => f.key == key

def invalidate (m : MemoryCache) (key : String) : MemoryCache :=
  { m with fragments := m.fragments.filter fun f => f.key != key }

def clear (m : MemoryCache) : MemoryCache := { m with fragments := [] }

/-- Looks at the clock. -/
def look (m : MemoryCache) : MemoryCache := { m with clock := m.clock.look }

/-- The value under `key`. A hit moves its fragment to the front, and a fragment found expired is
dropped. -/
def get (m : MemoryCache) (key : String) : Option String × MemoryCache :=
  let m := m.look
  match m.find? key with
  | none => (none, m)
  | some f =>
    if f.isExpired m.clock.now then (none, m.invalidate key)
    else (some f.value, { m with fragments := f :: (m.invalidate key).fragments })

/-- Puts a fragment in front, in place of the one with its key. The fragment that it displaces is
returned: the one in whose place it is, or the last one if there is no room for another. -/
def push (m : MemoryCache) (f : Fragment) : Option Fragment × MemoryCache :=
  let fragments := f :: (m.invalidate f.key).fragments
  ((m.find? f.key).or fragments[m.capacity]?, { m with fragments := fragments.take m.capacity })

/-- Stores a value for some nanoseconds. A displaced fragment with another key has been evicted. -/
def set (m : MemoryCache) (key value : String) (ttl : Option Nat) :
    Option Fragment × MemoryCache :=
  let m := m.look
  let deadline := (ttl.or m.defaultTtl).map (m.clock.now + ·)
  let (displaced, m) := m.push ⟨key, value, deadline⟩
  (displaced.filter fun f => f.key != key, m)

end MemoryCache

/-- Where the `Cache` filter keeps what it rendered. -/
inductive Cache where
  | memory (store : MemoryCache)
  /-- Keeps nothing. -/
  | null
deriving DecidableEq, Repr

namespace Cache

/-- The cache after a change of its store, if it has one. -/
def change (f : MemoryCache → MemoryCache) : Cache → Cache
  | memory m => memory (f m)
  | null => null

def size : Cache → Nat
  | memory m => m.size
  | null => 0

end Cache

/-- How a cache is set up. -/
structure CacheConfig where
  enabled : Bool := true
  capacity : Nat := 1024
  /-- In nanoseconds. -/
  defaultTtl : Option Nat := none
deriving DecidableEq, Repr

/-- The cache, with the clock by which its fragments expire. -/
def CacheConfig.build (c : CacheConfig) (clock : Clock := {}) : Cache :=
  if c.enabled then .memory (.new c.capacity c.defaultTtl clock) else .null

end PageFilters
