import PageFilters.Proofs.Ledger
import PageFilters.Proofs.Recency

namespace PageFilters

/-- The keys that came into a store and those that were taken out of it, the latest first. What was
evicted is in the journal. -/
structure Turnover where
  /-- Keys that were set while they were absent. -/
  entered : List String := []
  invalidated : List String := []
  cleared : List String := []
  /-- Keys under which a lookup found an expired fragment. -/
  expired : List String := []
deriving DecidableEq, Repr

namespace Turnover

def append (t u : Turnover) : Turnover where
  entered := t.entered ++ u.entered
  invalidated := t.invalidated ++ u.invalidated
  cleared := t.cleared ++ u.cleared
  expired := t.expired ++ u.expired

/-- All keys that were taken out. -/
def taken (t : Turnover) : List String := t.invalidated ++ t.cleared ++ t.expired

end Turnover

def Access.isLookup : Access → Bool
  | .get _ => true
  | _ => false

namespace MemoryCache

def keys (m : MemoryCache) : List String := m.fragments.map Fragment.key

/-- There is room for a fragment, no key is in the store twice, and it holds no more than it may. -/
structure Sound (m : MemoryCache) : Prop where
  capacity : 0 < m.capacity
  nodup : m.keys.Nodup
  room : m.size ≤ m.capacity

/-- What a call brings into the store and takes out of it, apart from evictions. -/
def turnover (m : MemoryCache) : Access → Turnover
  | .get key =>
    { expired := if (m.find? key).any fun f => f.isExpired m.clock.look.now then [key] else [] }
  | .set key _ _ => { entered := if key ∈ m.keys then [] else [key] }
  | .invalidate key => { invalidated := if key ∈ m.keys then [key] else [] }
  | .clear => { cleared := m.keys }

/-- The keys that a call evicts. -/
def evicts (m : MemoryCache) : Access → List String
  | .set key value ttl => ((m.set key value ttl).1.map Fragment.key).toList
  | _ => []

/-- The events that a call is counted by, the latest first. -/
def report (m : MemoryCache) : Access → List Event
  | .get key => [if (m.get key).1.isSome then .cacheHit key else .cacheMiss key]
  | a => ((m.evicts a).map .cacheEvicted).reverse

end MemoryCache

def Event.evicted? : Event → Option String
  | .cacheEvicted key => some key
  | _ => none

namespace Cache

def turnover : Cache → Access → Turnover
  | .memory m, a => m.turnover a
  | .null, _ => {}

end Cache

namespace State

/-- Makes a call on the store of the cache. -/
def access (s : State) : Access → State
  | .get key => (s.cacheGet key).2
  | .set key value ttl => s.cacheSet key value ttl
  | .invalidate key => s.cacheInvalidate key
  | .clear => s.cacheClear

/-- Makes the calls of a list, of which the first is the latest, with the keys that they brought in
and took out. -/
def replay (s : State) : List Access → Turnover × State
  | [] => ({}, s)
  | a :: earlier =>
    let (t, s) := s.replay earlier
    ((s.cache.turnover a).append t, s.access a)

theorem replay_cons (s : State) (a : Access) (earlier : List Access) :
    s.replay (a :: earlier) = (((s.replay earlier).2.cache.turnover a).append (s.replay earlier).1,
      (s.replay earlier).2.access a) := rfl

/-- A call changes the store as it does by itself, and is counted. -/
theorem access_memory {s : State} {m : MemoryCache} (hc : s.cache = .memory m) (a : Access) :
    s.access a = { s with
      cache := .memory (m.access a).2
      journal := m.report a ++ s.journal } := by
  cases a with
  | get key =>
    simp only [access, cacheGet, hc, MemoryCache.access, MemoryCache.report]
    cases m.get key with
    | mk found m' => cases found <;> rfl
  | set key value ttl =>
    obtain ⟨hnull, _⟩ | ⟨m', hm, hset⟩ := s.cacheSet_cases key value ttl
    · rw [hc] at hnull
      cases hnull
    · rw [hc] at hm
      cases hm
      simp only [access, hset, MemoryCache.access, MemoryCache.report, MemoryCache.evicts]
      cases (m.set key value ttl).1 with
      | none => rfl
      | some evicted => rfl
  | invalidate key =>
    rw [access, cacheInvalidate, hc]
    rfl
  | clear =>
    rw [access, cacheClear, hc]
    rfl

end State

section Lists

variable {keys : List String} {key : String}

theorem perm_cons_filter_ne (h : keys.Nodup) (hk : key ∈ keys) :
    keys.Perm (key :: keys.filter (· != key)) := by
  rw [← h.erase_eq_filter]
  exact List.perm_cons_erase hk

theorem filter_ne_of_not_mem (hk : key ∉ keys) : keys.filter (· != key) = keys :=
  List.filter_eq_self.mpr fun _ ho => bne_iff_ne.mpr fun heq => hk (heq ▸ ho)

end Lists

namespace MemoryCache

variable {m : MemoryCache}

/-- Setting a key that is in the store evicts none. -/
theorem evicts_of_mem (hk : key ∈ m.keys) (value : String) (ttl : Option Nat) :
    m.evicts (.set key value ttl) = [] := by
  cases hfind : m.find? key with
  | none => exact absurd hk (find?_eq_none.mp hfind)
  | some f =>
    have hkey := (find?_eq_some hfind).2
    have hlook : m.look.find? key = some f := hfind
    simp [evicts, set, push, hlook, hkey]

/-- Setting a new key evicts the last one of a full store. -/
theorem evicts_of_not_mem (hc : 0 < m.capacity) (hk : key ∉ m.keys) (value : String)
    (ttl : Option Nat) : m.evicts (.set key value ttl) = m.keys[m.capacity - 1]?.toList := by
  obtain ⟨n, hn⟩ := Nat.exists_eq_add_of_lt hc
  have hother : ∀ f ∈ m.fragments, (f.key != key) = true :=
    fun f hf => bne_iff_ne.mpr fun heq => hk (heq ▸ List.mem_map_of_mem hf)
  have hlook : m.look.find? key = none := find?_eq_none.mpr hk
  have hkeep : (m.look.invalidate key).fragments = m.fragments := List.filter_eq_self.mpr hother
  simp only [evicts, set, push, hlook, hkeep, look_capacity, hn, keys, Nat.zero_add,
    Nat.add_sub_cancel, List.getElem?_cons_succ, List.getElem?_map, Option.none_or]
  cases hget : m.fragments[n]? with
  | none => rfl
  | some f => rw [Option.filter_some, if_pos (hother f (List.mem_of_getElem? hget))]

/-- A set loses only what it evicts. -/
theorem keys_set (h : m.Sound) (key value : String) (ttl : Option Nat) :
    key :: m.keys.filter (· != key) =
      (m.set key value ttl).2.keys ++ m.evicts (.set key value ttl) := by
  have hkeys : (m.set key value ttl).2.keys =
      (key :: m.keys.filter (· != key)).take m.capacity := by
    rw [keys, set_snd, List.map_take, List.map_cons, map_key_invalidate]
    rfl
  have hroom : m.keys.length ≤ m.capacity := (List.length_map _).trans_le h.room
  by_cases hk : key ∈ m.keys
  · have hlength := (perm_cons_filter_ne h.nodup hk).length_eq
    rw [hkeys, evicts_of_mem hk, List.append_nil, List.take_of_length_le (hlength ▸ hroom)]
  · obtain ⟨n, hn⟩ := Nat.exists_eq_add_of_lt h.capacity
    rw [Nat.zero_add] at hn
    rw [hkeys, evicts_of_not_mem h.capacity hk, filter_ne_of_not_mem hk, hn, List.take_succ_cons,
      Nat.add_sub_cancel, List.cons_append, ← List.take_add_one,
      List.take_of_length_le (hn ▸ hroom)]

/-- What was in the store before a call or came in by it is in the store afterwards, evicted, or
taken out. -/
theorem access_partition (h : m.Sound) (a : Access) :
    ((m.turnover a).entered ++ m.keys).Perm
      ((m.access a).2.keys ++ m.evicts a ++ (m.turnover a).taken) := by
  cases a with
  | get key =>
    obtain ⟨hfind, hget⟩ | ⟨f, hfind, hf, hget⟩ | ⟨f, hfind, hf, hget⟩ := m.get_cases key
    · simp [turnover, Turnover.taken, evicts, access, hfind, hget, keys]
    · obtain ⟨hmem, rfl⟩ := find?_eq_some hfind
      have hkeys : (m.look.invalidate f.key).keys = m.keys.filter (· != f.key) :=
        map_key_invalidate m f.key
      simp only [turnover, Turnover.taken, evicts, access, hfind, hget, hf, hkeys, Option.any_some,
        if_true, List.nil_append, List.append_nil]
      exact (perm_cons_filter_ne h.nodup (List.mem_map_of_mem hmem)).trans
        (List.perm_append_singleton _ _).symm
    · obtain ⟨hmem, rfl⟩ := find?_eq_some hfind
      simp only [turnover, Turnover.taken, evicts, access, hfind, hget, hf, keys, Option.any_some,
        Bool.false_eq_true, if_false, List.nil_append, List.append_nil, List.map_cons,
        map_key_invalidate]
      exact perm_cons_filter_ne h.nodup (List.mem_map_of_mem hmem)
  | set key value ttl =>
    have hset := keys_set h key value ttl
    simp only [turnover, Turnover.taken, access, List.append_nil, ← hset]
    by_cases hk : key ∈ m.keys
    · rw [if_pos hk]
      exact perm_cons_filter_ne h.nodup hk
    · rw [if_neg hk, filter_ne_of_not_mem hk]
      exact .refl _
  | invalidate key =>
    have hkeys : (m.invalidate key).keys = m.keys.filter (· != key) := map_key_invalidate m key
    simp only [turnover, Turnover.taken, evicts, access, hkeys, List.nil_append, List.append_nil]
    by_cases hk : key ∈ m.keys
    · rw [if_pos hk]
      exact (perm_cons_filter_ne h.nodup hk).trans (List.perm_append_singleton _ _).symm
    · rw [if_neg hk, filter_ne_of_not_mem hk, List.append_nil]
  | clear => simp [turnover, Turnover.taken, evicts, access, clear, keys]

theorem turnover_fresh (h : m.keys.Nodup) (a : Access) :
    ((m.turnover a).entered ++ m.keys).Nodup := by
  cases a with
  | set key value ttl =>
    rw [turnover]
    split
    next => exact h
    next hk => exact List.nodup_cons.mpr ⟨hk, h⟩
  | _ => exact h

theorem Sound.access (h : m.Sound) (a : Access) : (m.access a).2.Sound where
  capacity := by
    rw [m.access_capacity]
    exact h.capacity
  nodup := by
    have hall := (access_partition h a).nodup_iff.mp (turnover_fresh h.nodup a)
    rw [List.append_assoc] at hall
    exact (List.nodup_append.mp hall).1
  room := by
    have hlength := (access_partition h a).length_eq
    have hroom := h.room
    rw [m.access_capacity]
    simp only [List.length_append, keys, List.length_map] at hlength
    cases a with
    | set key value ttl => exact List.length_take_le _ _
    | _ =>
      simp only [turnover, List.length_nil] at hlength
      simp only [size] at hroom ⊢
      omega

/-- A key pushes another one out exactly if it is new and the store is full. -/
theorem length_evicts_set (h : m.Sound) (key value : String) (ttl : Option Nat) :
    (m.evicts (.set key value ttl)).length =
      if key ∉ m.keys ∧ m.size = m.capacity then 1 else 0 := by
  have hsize : m.keys.length = m.size := List.length_map _
  have hroom := h.room
  have hcapacity := h.capacity
  by_cases hk : key ∈ m.keys
  · rw [evicts_of_mem hk, if_neg fun hn => hn.1 hk]
    rfl
  · rw [evicts_of_not_mem h.capacity hk]
    by_cases hfull : m.size = m.capacity
    · rw [if_pos ⟨hk, hfull⟩, List.getElem?_eq_getElem (by omega)]
      rfl
    · rw [if_neg fun hn => hfull hn.2, List.getElem?_eq_none (by omega)]
      rfl

theorem report_lookups (m : MemoryCache) (a : Access) :
    (m.report a).countP (fun event => event.metric? == some "mason_cache_hit_total") +
      (m.report a).countP (fun event => event.metric? == some "mason_cache_miss_total") =
        if a.isLookup then 1 else 0 := by
  cases a with
  | get key =>
    rw [report]
    split
    next => rfl
    next => rfl
  | _ => simp [report, Access.isLookup, Function.comp_def, Event.metric?]

theorem report_evicted (m : MemoryCache) (a : Access) :
    (m.report a).filterMap Event.evicted? = (m.evicts a).reverse := by
  cases a with
  | get key =>
    rw [report]
    split
    next => rfl
    next => rfl
  | _ => simp [report, List.filterMap_reverse, List.filterMap_map, Function.comp_def,
      Event.evicted?]

end MemoryCache

/-- How a store fits the calls made on it, what they brought in and took out, and their counts. -/
structure State.Balanced (s : State) (calls : List Access) (t : Turnover) (m : MemoryCache) :
    Prop where
  cache : s.cache = .memory m
  sound : m.Sound
  lookups : s.counted "mason_cache_hit_total" + s.counted "mason_cache_miss_total" =
    calls.countP Access.isLookup
  partition : t.entered.Perm (m.keys ++ s.journal.filterMap Event.evicted? ++ t.taken)

namespace State.Balanced

variable {s : State} {calls : List Access} {t : Turnover} {m : MemoryCache}

theorem access (h : s.Balanced calls t m) (a : Access) :
    (s.access a).Balanced (a :: calls) ((m.turnover a).append t) (m.access a).2 := by
  have haccess := access_memory h.cache a
  refine ⟨by rw [haccess], h.sound.access a, ?_, ?_⟩
  · have hreport := m.report_lookups a
    have hlookups := h.lookups
    simp only [counted, haccess, List.countP_append, List.countP_cons] at hlookups ⊢
    omega
  · -- Key by key: what the call moves is counted on both sides.
    refine List.perm_iff_count.mpr fun key => ?_
    have hcall := (MemoryCache.access_partition h.sound a).count_eq key
    have hpast := h.partition.count_eq key
    simp only [haccess, Turnover.append, Turnover.taken, List.filterMap_append, m.report_evicted,
      List.count_append, List.count_reverse] at hcall hpast ⊢
    omega

end State.Balanced

/-- The calls made on a new store of a capacity, the latest first, leave it balanced. -/
theorem State.balanced_replay (request : Request) (capacity : Nat) (defaultTtl : Option Nat)
    (clock : Clock) (calls : List Access) :
    ∃ t s m, State.replay { request, cache := .memory (.new capacity defaultTtl clock) } calls =
      (t, s) ∧ s.Balanced calls t m ∧ m.capacity = max capacity 1 := by
  induction calls with
  | nil =>
    exact ⟨_, _, _, rfl, ⟨rfl, ⟨Nat.le_max_right capacity 1, List.nodup_nil, Nat.zero_le _⟩, rfl,
      .nil⟩, rfl⟩
  | cons a earlier ih =>
    obtain ⟨t, s, m, hreplay, h, hcapacity⟩ := ih
    refine ⟨_, _, _, ?_, h.access a, (m.access_capacity a).trans hcapacity⟩
    rw [replay_cons, hreplay, h.cache]
    rfl

/-- A store keeps its books, whatever calls are made on it and however time passes. No key is in it
twice, and it holds no more of them than it may. Each lookup is counted as a hit or a miss. All that
came in is still there, was evicted, or was taken out; only a new key in a full store evicts
another, and that one is counted. -/
theorem Turnover.balances (request : Request) (capacity : Nat) (defaultTtl : Option Nat)
    (clock : Clock) (calls : List Access) :
    ∃ t s m, State.replay { request, cache := .memory (.new capacity defaultTtl clock) } calls =
        (t, s) ∧
      s.cache = .memory m ∧ m.keys.Nodup ∧ m.size ≤ max capacity 1 ∧
      s.counted "mason_cache_hit_total" + s.counted "mason_cache_miss_total" =
        calls.countP Access.isLookup ∧
      t.entered.Perm (m.keys ++ s.journal.filterMap Event.evicted? ++ t.taken) ∧
      t.entered.length = m.size + s.counted "mason_cache_evict_total" + t.invalidated.length +
        t.cleared.length + t.expired.length ∧
      (∀ key, (s.access (.get key)).journal =
        (if (s.cacheGet key).1.isSome then .cacheHit key else .cacheMiss key) :: s.journal) ∧
      ∀ key value ttl, ∃ m' evicted, (s.access (.set key value ttl)).cache = .memory m' ∧
        (s.access (.set key value ttl)).journal =
          (evicted.map .cacheEvicted).reverse ++ s.journal ∧
        key :: m.keys.filter (· != key) = m'.keys ++ evicted ∧
        evicted.length = if key ∉ m.keys ∧ m.size = max capacity 1 then 1 else 0 := by
  obtain ⟨t, s, m, hreplay, h, hcapacity⟩ :=
    State.balanced_replay request capacity defaultTtl clock calls
  refine ⟨t, s, m, hreplay, h.cache, h.sound.nodup, hcapacity ▸ h.sound.room, h.lookups,
    h.partition, ?_, ?_, ?_⟩
  · have hevicted : s.counted "mason_cache_evict_total" =
        (s.journal.filterMap Event.evicted?).length := by
      refine s.counted_eq_length fun event => ?_
      cases event <;> rfl
    have hlength := h.partition.length_eq
    have hsize : m.keys.length = m.size := List.length_map _
    simp only [Turnover.taken, List.length_append] at hlength
    omega
  · intro key
    rw [State.access_memory h.cache]
    have hget : (s.cacheGet key).1 = (m.get key).1 := by
      simp only [State.cacheGet, h.cache]
      cases m.get key with
      | mk found m' => cases found <;> rfl
    rw [hget]
    rfl
  · intro key value ttl
    refine ⟨(m.set key value ttl).2, m.evicts (.set key value ttl), ?_, ?_,
      MemoryCache.keys_set h.sound key value ttl, ?_⟩
    · rw [State.access_memory h.cache]
      rfl
    · rw [State.access_memory h.cache]
      rfl
    · rw [← hcapacity]
      exact MemoryCache.length_evicts_set h.sound key value ttl

/-- In a store with room for one, `b` evicts `a` and is set again, and is found expired at last. -/
example (request : Request) : (State.replay { request, cache := .memory (.new 0 none) }
    [.get "b", .set "b" "3" (some 0), .set "b" "2" none, .set "a" "1" none]).1 =
      { entered := ["b", "a"], expired := ["b"] } := by
  rfl

end PageFilters
