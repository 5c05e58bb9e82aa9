import PageFilters.Request

namespace PageFilters

namespace MemoryCache

variable {m : MemoryCache} {key value : String} {ttl : Option Nat} {f : Fragment}

@[simp] theorem look_capacity : m.look.capacity = m.capacity := rfl

@[simp] theorem look_defaultTtl : m.look.defaultTtl = m.defaultTtl := rfl

@[simp] theorem look_fragments : m.look.fragments = m.fragments := rfl

@[simp] theorem look_clock : m.look.clock = m.clock.look := rfl

@[simp] theorem invalidate_capacity : (m.invalidate key).capacity = m.capacity := rfl

@[simp] theorem invalidate_defaultTtl : (m.invalidate key).defaultTtl = m.defaultTtl := rfl

@[simp] theorem invalidate_clock : (m.invalidate key).clock = m.clock := rfl

theorem mem_invalidate : f ∈ (m.invalidate key).fragments ↔ f ∈ m.fragments ∧ f.key ≠ key := by
  simp [invalidate]

theorem find?_eq_some (h : m.find? key = some f) : f ∈ m.fragments ∧ f.key = key :=
  ⟨List.mem_of_find?_eq_some h, by simpa using List.find?_some h⟩

theorem find?_eq_none : m.find? key = none ↔ key ∉ m.fragments.map Fragment.key := by
  simp [find?, List.find?_eq_none]

/-- A lookup misses, drops a fragment that has expired, or moves one to the front. -/
theorem get_cases (m : MemoryCache) (key : String) :
    (m.find? key = none ∧ m.get key = (none, m.look)) ∨
    (∃ f, m.find? key = some f ∧ f.isExpired m.clock.look.now = true ∧
      m.get key = (none, m.look.invalidate key)) ∨
    (∃ f, m.find? key = some f ∧ f.isExpired m.clock.look.now = false ∧
      m.get key =
        (some f.value, { m.look with fragments := f :: (m.invalidate key).fragments })) := by
  have hlook : m.look.find? key = m.find? key := rfl
  cases hfind : m.find? key with
  | none => exact .inl ⟨rfl, by simp only [get, hlook, hfind]⟩
  | some f =>
    cases hf : f.isExpired m.clock.look.now with
    | true =>
      refine .inr (.inl ⟨f, rfl, hf, ?_⟩)
      simp only [get, hlook, hfind, look_clock, hf, if_true]
    | false =>
      refine .inr (.inr ⟨f, rfl, hf, ?_⟩)
      simp only [get, hlook, hfind, look_clock, hf, Bool.false_eq_true, if_false]
      rfl

theorem get_eq_some (h : (m.get key).1 = some value) :
    ∃ f ∈ m.fragments, f.key = key ∧ f.value = value ∧ f.isExpired m.clock.look.now = false := by
  obtain ⟨_, hget⟩ | ⟨f, _, _, hget⟩ | ⟨f, hfind, hf, hget⟩ := m.get_cases key
  · simp [hget] at h
  · simp [hget] at h
  · obtain ⟨hmem, hkey⟩ := find?_eq_some hfind
    exact ⟨f, hmem, hkey, by simpa [hget] using h, hf⟩

theorem mem_of_get (h : f ∈ (m.get key).2.fragments) : f ∈ m.fragments := by
  obtain ⟨_, hget⟩ | ⟨g, _, _, hget⟩ | ⟨g, hfind, _, hget⟩ := m.get_cases key
  · rw [hget] at h
    exact h
  · rw [hget] at h
    exact (mem_invalidate.mp h).1
  · rw [hget] at h
    rcases List.mem_cons.mp h with rfl | h
    · exact (find?_eq_some hfind).1
    · exact (mem_invalidate.mp h).1

theorem get_setup (m : MemoryCache) (key : String) : (m.get key).2.capacity = m.capacity ∧
    (m.get key).2.defaultTtl = m.defaultTtl ∧ (m.get key).2.clock = m.clock.look := by
  obtain ⟨_, hget⟩ | ⟨_, _, _, hget⟩ | ⟨_, _, _, hget⟩ := m.get_cases key <;> simp [hget]

/-- The fragment that a call of `set` stores. -/
def stored (m : MemoryCache) (key value : String) (ttl : Option Nat) : Fragment :=
  ⟨key, value, (ttl.or m.defaultTtl).map (m.clock.look.now + ·)⟩

theorem set_snd (m : MemoryCache) (key value : String) (ttl : Option Nat) :
    (m.set key value ttl).2 = { m.look with
      fragments := (m.stored key value ttl :: (m.invalidate key).fragments).take m.capacity } :=
  rfl

theorem mem_of_set (h : f ∈ (m.set key value ttl).2.fragments) :
    f = m.stored key value ttl ∨ (f ∈ m.fragments ∧ f.key ≠ key) := by
  rw [set_snd] at h
  rcases List.mem_cons.mp (List.mem_of_mem_take h) with rfl | h
  · exact .inl rfl
  · exact .inr (mem_invalidate.mp h)

end MemoryCache

namespace Cache

/-- All fragments in the cache satisfy a condition. -/
def Keeps (P : Fragment → Prop) : Cache → Prop
  | memory m => ∀ f ∈ m.fragments, P f
  | null => True

/-- The number of fragments that the cache may hold and the time to live of those stored without
one, if it holds any. -/
def setup? : Cache → Option (Nat × Option Nat)
  | memory m => some (m.capacity, m.defaultTtl)
  | null => none

theorem setup?_change (f : MemoryCache → MemoryCache)
    (h : ∀ m, (memory (f m)).setup? = (memory m).setup?) (c : Cache) :
    (c.change f).setup? = c.setup? := by
  cases c with
  | memory m => exact h m
  | null => rfl

theorem keeps_build {P : Fragment → Prop} (config : CacheConfig) (clock : Clock) :
    (config.build clock).Keeps P := by
  unfold CacheConfig.build
  split
  next => exact fun _ hf => absurd hf List.not_mem_nil
  next => trivial

end Cache

namespace State

theorem cacheGet_cases (s : State) (key : String) :
    (s.cache = .null ∧ s.cacheGet key = (none, s)) ∨
    (∃ m event, s.cache = .memory m ∧ s.cacheGet key =
      ((m.get key).1, { s with cache := .memory (m.get key).2 }.record event)) := by
  unfold cacheGet
  split
  next hc => exact .inl ⟨hc, rfl⟩
  next m hc =>
    refine .inr ⟨m, ?_⟩
    split
    next value m' hget => exact ⟨.cacheHit key, hc, by rw [hget]⟩
    next m' hget => exact ⟨.cacheMiss key, hc, by rw [hget]⟩

theorem cacheSet_cases (s : State) (key value : String) (ttl : Option Nat) :
    (s.cache = .null ∧ s.cacheSet key value ttl = s) ∨
    (∃ m, s.cache = .memory m ∧ s.cacheSet key value ttl =
      { s with
        cache := .memory (m.set key value ttl).2
        journal := ((m.set key value ttl).1.map fun f => .cacheEvicted f.key).toList ++
          s.journal }) := by
  unfold cacheSet
  split
  next hc => exact .inl ⟨hc, rfl⟩
  next m hc =>
    refine .inr ⟨m, hc, ?_⟩
    split
    next evicted m' hset =>
      rw [hset]
      rfl
    next m' hset =>
      rw [hset]
      rfl

variable {P : Fragment → Prop} {s : State} {key value : String}

theorem cacheGet_request (s : State) (key : String) : (s.cacheGet key).2.request = s.request := by
  obtain ⟨_, hget⟩ | ⟨_, _, _, hget⟩ := s.cacheGet_cases key
  · rw [hget]
  · rw [hget]
    rfl

theorem cacheGet_setup (s : State) (key : String) :
    (s.cacheGet key).2.cache.setup? = s.cache.setup? := by
  obtain ⟨_, hget⟩ | ⟨m, event, hc, hget⟩ := s.cacheGet_cases key
  · rw [hget]
  · obtain ⟨hcapacity, httl, _⟩ := m.get_setup key
    rw [hget, hc]
    simp [record, Cache.setup?, hcapacity, httl]

theorem cacheGet_keeps (h : s.cache.Keeps P) (key : String) :
    (s.cacheGet key).2.cache.Keeps P := by
  obtain ⟨_, hget⟩ | ⟨m, event, hc, hget⟩ := s.cacheGet_cases key
  · rw [hget]
    exact h
  · rw [hc] at h
    rw [hget]
    exact fun f hf => h f (MemoryCache.mem_of_get hf)

theorem cacheGet_eq_some (h : s.cache.Keeps P) (hv : (s.cacheGet key).1 = some value) :
    ∃ f, P f ∧ f.key = key ∧ f.value = value := by
  obtain ⟨_, hget⟩ | ⟨m, event, hc, hget⟩ := s.cacheGet_cases key
  · simp [hget] at hv
  · rw [hc] at h
    rw [hget] at hv
    obtain ⟨f, hf, hkey, hvalue, _⟩ := MemoryCache.get_eq_some hv
    exact ⟨f, h f hf, hkey, hvalue⟩

theorem cacheSet_request (s : State) (key value : String) (ttl : Option Nat) :
    (s.cacheSet key value ttl).request = s.request := by
  obtain ⟨_, hset⟩ | ⟨_, _, hset⟩ := s.cacheSet_cases key value ttl
  · rw [hset]
  · rw [hset]

theorem cacheSet_setup (s : State) (key value : String) (ttl : Option Nat) :
    (s.cacheSet key value ttl).cache.setup? = s.cache.setup? := by
  obtain ⟨_, hset⟩ | ⟨m, hc, hset⟩ := s.cacheSet_cases key value ttl
  · rw [hset]
  · rw [hset, hc]
    rfl

theorem cacheSet_keeps (h : s.cache.Keeps P) (hp : ∀ deadline, P ⟨key, value, deadline⟩)
    (ttl : Option Nat) : (s.cacheSet key value ttl).cache.Keeps P := by
  obtain ⟨_, hset⟩ | ⟨m, hc, hset⟩ := s.cacheSet_cases key value ttl
  · rw [hset]
    exact h
  · rw [hc] at h
    rw [hset]
    intro f hf
    obtain rfl | ⟨hf, _⟩ := MemoryCache.mem_of_set hf
    · exact hp _
    · exact h f hf

end State

end PageFilters
