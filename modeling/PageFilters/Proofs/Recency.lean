import PageFilters.Proofs.Fragments
import Mathlib.Data.Finset.Card
import Mathlib.Data.Finset.Dedup
import Mathlib.Data.List.Nodup

namespace PageFilters

/-- A call on a store. -/
inductive Access where
  | get (key : String)
  | set (key value : String) (ttl : Option Nat)
  | invalidate (key : String)
  | clear
deriving DecidableEq, Repr

/-- Whether the call removes nothing on purpose. -/
def Access.keeps : Access → Bool
  | get _ => true
  | set _ _ _ => true
  | invalidate _ => false
  | clear => false

/-- A call that was made. -/
structure Visit where
  access : Access
  /-- The clock when it was over. -/
  time : Nat
  /-- The value that a lookup found. -/
  answer : Option String
deriving DecidableEq, Repr

/-- The key that the call touched: one that was set, or found by a lookup. -/
def Visit.touched? (v : Visit) : Option String :=
  match v.access with
  | .get key => v.answer.map fun _ => key
  | .set key _ _ => some key
  | _ => none

/-- The time from which on a fragment has expired that the call stored. -/
def Visit.deadline? (defaultTtl : Option Nat) (v : Visit) : Option Nat :=
  match v.access with
  | .set _ _ ttl => (ttl.or defaultTtl).map (v.time + ·)
  | _ => none

/-- Calls that were made, the latest first. -/
abbrev History := List Visit

namespace History

def touched (past : History) : List String := past.filterMap Visit.touched?

/-- The call that set the key last, if it was not removed since. -/
def latestSet? (key : String) : History → Option Visit
  | [] => none
  | v :: past =>
    match v.access with
    | .get _ => latestSet? key past
    | .set k _ _ => if k = key then some v else latestSet? key past
    | .invalidate k => if k = key then none else latestSet? key past
    | .clear => none

/-- Keys in the order of their last occurrence, the latest first. -/
def recency : List String → List String
  | [] => []
  | key :: keys => key :: (recency keys).filter (· != key)

end History

namespace MemoryCache

/-- Makes a call, and the value that it found if it is a lookup. -/
def access (m : MemoryCache) : Access → Option String × MemoryCache
  | .get key => m.get key
  | .set key value ttl => (none, (m.set key value ttl).2)
  | .invalidate key => (none, m.invalidate key)
  | .clear => (none, m.clear)

/-- No fragment has expired when the next call looks at the clock. -/
def Fresh (m : MemoryCache) : Prop := ∀ f ∈ m.fragments, f.isExpired m.clock.look.now = false

instance (m : MemoryCache) : Decidable m.Fresh :=
  inferInstanceAs (Decidable (∀ f ∈ m.fragments, f.isExpired m.clock.look.now = false))

/-- Makes the calls of a list, of which the first is the latest. -/
def replay (m : MemoryCache) : List Access → History × MemoryCache
  | [] => ([], m)
  | a :: earlier =>
    let (past, m) := m.replay earlier
    let (answer, m) := m.access a
    (⟨a, m.clock.now, answer⟩ :: past, m)

end MemoryCache

section Lists

variable {α : Type} [DecidableEq α] {a b : α}

theorem mem_take_iff {l : List α} {n : Nat} :
    a ∈ l.take n ↔ a ∈ l ∧ (l.takeWhile (· != a)).length < n := by
  induction l generalizing n with
  | nil => simp
  | cons b l ih =>
    cases n with
    | zero => simp
    | succ n =>
      rw [List.take_succ_cons, List.mem_cons, List.mem_cons, ih]
      by_cases h : b = a
      · simp [h]
      · simp [h, Ne.symm h]

theorem takeWhile_filter_ne (h : b ≠ a) (l : List α) :
    (l.filter (· != b)).takeWhile (· != a) = (l.takeWhile (· != a)).filter (· != b) := by
  induction l with
  | nil => rfl
  | cons c l ih =>
    by_cases hb : c = b
    · simp [hb, h, ih]
    · by_cases ha : c = a
      · simp [ha, h.symm]
      · simp [ha, hb, ih]

theorem take_filter_ne {l : List α} (h : l.Nodup) (n : Nat) :
    ((l.take (n + 1)).filter (· != a)).take n = (l.filter (· != a)).take n := by
  induction l generalizing n with
  | nil => rfl
  | cons b l ih =>
    obtain ⟨hb, h⟩ := List.nodup_cons.mp h
    rw [List.take_succ_cons]
    by_cases he : b = a
    · have hnot : ∀ c ∈ l, c ≠ a := fun c hc hca => hb (he ▸ hca ▸ hc)
      have htake : (l.take n).filter (· != a) = l.take n :=
        List.filter_eq_self.mpr fun c hc => by simpa using hnot c (List.mem_of_mem_take hc)
      have hall : l.filter (· != a) = l := List.filter_eq_self.mpr (by simpa using hnot)
      simp [he, htake, hall]
    · cases n with
      | zero => simp
      | succ n => simp [he, ih h n]

end Lists

namespace History

theorem mem_recency {key : String} {keys : List String} : key ∈ recency keys ↔ key ∈ keys := by
  induction keys with
  | nil => simp [recency]
  | cons k keys ih =>
    by_cases h : key = k
    · simp [recency, h]
    · simp [recency, h, ih]

theorem recency_nodup (keys : List String) : (recency keys).Nodup := by
  induction keys with
  | nil => simp [recency]
  | cons k keys ih => simp [recency, ih.filter]

theorem mem_takeWhile_recency {key other : String} {keys : List String} :
    other ∈ (recency keys).takeWhile (· != key) ↔ other ∈ keys.takeWhile (· != key) := by
  induction keys with
  | nil => simp [recency]
  | cons k keys ih =>
    by_cases h : k = key
    · simp [recency, h]
    · have hk : (k != key) = true := by simpa using h
      simp only [recency, List.takeWhile_cons, hk, if_true, takeWhile_filter_ne h, List.mem_cons,
        List.mem_filter, ih]
      by_cases ho : other = k
      · simp [ho]
      · simp [ho]

/-- How many keys stand in front of a key in the order of recency. -/
theorem length_takeWhile_recency (key : String) (keys : List String) :
    ((recency keys).takeWhile (· != key)).length =
      (keys.takeWhile (· != key)).toFinset.card := by
  have hnodup : ((recency keys).takeWhile (· != key)).Nodup :=
    (recency_nodup keys).sublist (List.takeWhile_sublist _)
  rw [← List.toFinset_card_of_nodup hnodup]
  congr 1
  ext other
  simp only [List.mem_toFinset, mem_takeWhile_recency]

theorem latestSet?_mem {key : String} {past : History} {v : Visit}
    (h : latestSet? key past = some v) :
    v ∈ past ∧ ∃ value ttl, v.access = .set key value ttl := by
  induction past with
  | nil => simp [latestSet?] at h
  | cons w past ih =>
    rw [latestSet?] at h
    split at h
    next => exact (ih h).imp_left (List.mem_cons_of_mem w)
    next k value ttl hw =>
      split at h
      next hk =>
        cases Option.some.inj h
        exact ⟨List.mem_cons_self, value, ttl, hk ▸ hw⟩
      next => exact (ih h).imp_left (List.mem_cons_of_mem w)
    next =>
      split at h
      next => simp at h
      next => exact (ih h).imp_left (List.mem_cons_of_mem w)
    next => simp at h

theorem mem_touched_of_latestSet? {key : String} {past : History} {v : Visit}
    (h : latestSet? key past = some v) : key ∈ touched past := by
  obtain ⟨hv, value, ttl, haccess⟩ := latestSet?_mem h
  exact List.mem_filterMap.mpr ⟨v, hv, by simp [Visit.touched?, haccess]⟩

end History

namespace MemoryCache

open History

variable {m : MemoryCache} {past : History} {defaultTtl : Option Nat}

theorem access_capacity (m : MemoryCache) (a : Access) :
    (m.access a).2.capacity = m.capacity := by
  cases a with
  | get key => exact (m.get_setup key).1
  | set key value ttl => rfl
  | invalidate key => rfl
  | clear => rfl

theorem access_defaultTtl (m : MemoryCache) (a : Access) :
    (m.access a).2.defaultTtl = m.defaultTtl := by
  cases a with
  | get key => exact (m.get_setup key).2.1
  | set key value ttl => rfl
  | invalidate key => rfl
  | clear => rfl

theorem now_le_look (m : MemoryCache) : m.clock.now ≤ m.clock.look.now :=
  Nat.le_add_right _ _

theorem now_le_access (m : MemoryCache) (a : Access) :
    m.clock.now ≤ (m.access a).2.clock.now := by
  cases a with
  | get key =>
    have hclock : (m.access (.get key)).2.clock = m.clock.look := (m.get_setup key).2.2
    rw [hclock]
    exact m.now_le_look
  | set key value ttl => exact m.now_le_look
  | invalidate key => exact Nat.le_refl _
  | clear => exact Nat.le_refl _

theorem replay_cons (m : MemoryCache) (a : Access) (earlier : List Access) :
    m.replay (a :: earlier) =
      (⟨a, ((m.replay earlier).2.access a).2.clock.now, ((m.replay earlier).2.access a).1⟩ ::
        (m.replay earlier).1, ((m.replay earlier).2.access a).2) := rfl

theorem replay_setup (m : MemoryCache) (calls : List Access) :
    (m.replay calls).2.capacity = m.capacity ∧ (m.replay calls).2.defaultTtl = m.defaultTtl := by
  induction calls with
  | nil => exact ⟨rfl, rfl⟩
  | cons a earlier ih =>
    rw [replay_cons]
    exact ⟨(access_capacity _ a).trans ih.1, (access_defaultTtl _ a).trans ih.2⟩

/-- Each fragment is what the latest call that set its key has stored. -/
def Follows (past : History) (m : MemoryCache) : Prop :=
  ∀ f ∈ m.fragments, ∃ v ttl, latestSet? f.key past = some v ∧
    v.access = .set f.key f.value ttl ∧ f.deadline = v.deadline? m.defaultTtl

theorem Follows.access (h : Follows past m) (a : Access) :
    Follows (⟨a, (m.access a).2.clock.now, (m.access a).1⟩ :: past) (m.access a).2 := by
  intro f hf
  rw [access_defaultTtl]
  cases a with
  | get key => exact h f (mem_of_get hf)
  | set key value ttl =>
    obtain rfl | ⟨hf, hkey⟩ := mem_of_set hf
    · exact ⟨_, ttl, if_pos rfl, rfl, rfl⟩
    · obtain ⟨v, ttl', hv, hset⟩ := h f hf
      exact ⟨v, ttl', by simpa [latestSet?, Ne.symm hkey] using hv, hset⟩
  | invalidate key =>
    obtain ⟨hf, hkey⟩ := mem_invalidate.mp hf
    obtain ⟨v, ttl, hv, hset⟩ := h f hf
    exact ⟨v, ttl, by simpa [latestSet?, Ne.symm hkey] using hv, hset⟩
  | clear => exact absurd hf List.not_mem_nil

theorem follows_replay (capacity : Nat) (defaultTtl : Option Nat) (clock : Clock)
    (calls : List Access) :
    Follows ((new capacity defaultTtl clock).replay calls).1
      ((new capacity defaultTtl clock).replay calls).2 := by
  induction calls with
  | nil => exact fun f hf => absurd hf List.not_mem_nil
  | cons a earlier ih =>
    rw [replay_cons]
    exact ih.access a

/-- The keys in the store are the first ones in the order of recency. -/
def Recent (past : History) (m : MemoryCache) : Prop :=
  m.fragments.map Fragment.key = (recency (touched past)).take m.capacity

theorem map_key_invalidate (m : MemoryCache) (key : String) :
    (m.invalidate key).fragments.map Fragment.key =
      (m.fragments.map Fragment.key).filter (· != key) := by
  simp [invalidate, List.filter_map, Function.comp_def]

/-- Touching a key in the store moves it to the front, and nothing is lost. -/
theorem Recent.promote (h : Recent past m) {key : String}
    (hkey : key ∈ m.fragments.map Fragment.key) :
    key :: (m.invalidate key).fragments.map Fragment.key =
      (recency (key :: touched past)).take m.capacity := by
  rw [map_key_invalidate, h]
  rw [h] at hkey
  cases hc : m.capacity with
  | zero => simp [hc] at hkey
  | succ n =>
    rw [hc] at hkey
    -- Leaving out the key makes the room for it in front.
    have hlength : (((recency (touched past)).take (n + 1)).filter (· != key)).length ≤ n := by
      have hlt : (((recency (touched past)).take (n + 1)).filter (· != key)).length <
          ((recency (touched past)).take (n + 1)).length :=
        List.length_filter_lt_length_iff_exists.mpr ⟨key, hkey, by simp⟩
      have := List.length_take_le (n + 1) (recency (touched past))
      omega
    rw [recency, List.take_succ_cons, ← take_filter_ne (recency_nodup _),
      List.take_of_length_le hlength]

/-- Touching any key puts it in front, and the last key goes if there is no room. -/
theorem Recent.push (h : Recent past m) (hc : 0 < m.capacity) (key : String) :
    (key :: (m.invalidate key).fragments.map Fragment.key).take m.capacity =
      (recency (key :: touched past)).take m.capacity := by
  rw [map_key_invalidate, h]
  obtain ⟨n, hn⟩ : ∃ n, m.capacity = n + 1 := ⟨m.capacity - 1, by omega⟩
  rw [hn, recency, List.take_succ_cons, List.take_succ_cons, take_filter_ne (recency_nodup _)]

theorem Recent.access (h : Recent past m) (hc : 0 < m.capacity) (fresh : m.Fresh) {a : Access}
    (ha : a.keeps = true) :
    Recent (⟨a, (m.access a).2.clock.now, (m.access a).1⟩ :: past) (m.access a).2 := by
  cases a with
  | get key =>
    obtain ⟨_, hget⟩ | ⟨f, hfind, hf, _⟩ | ⟨f, hfind, _, hget⟩ := m.get_cases key
    · have haccess : m.access (.get key) = (none, m.look) := hget
      rw [haccess]
      exact h
    · rw [fresh f (find?_eq_some hfind).1] at hf
      cases hf
    · obtain ⟨hmem, hkey⟩ := find?_eq_some hfind
      have haccess : m.access (.get key) = (some f.value,
          { m.look with fragments := f :: (m.invalidate key).fragments }) := hget
      rw [haccess, Recent]
      have hpromote := h.promote (List.mem_map.mpr ⟨f, hmem, hkey⟩)
      rw [List.map_cons, hkey, hpromote]
      rfl
  | set key value ttl =>
    have hpush := h.push hc key
    change ((m.stored key value ttl :: (m.invalidate key).fragments).take m.capacity).map
      Fragment.key = (recency (key :: touched past)).take m.capacity
    rw [List.map_take, List.map_cons]
    exact hpush
  | invalidate key => cases ha
  | clear => cases ha

theorem recent_replay {capacity : Nat} {defaultTtl : Option Nat} {clock : Clock}
    {calls : List Access} (hcalls : ∀ a ∈ calls, a.keeps = true)
    (fresh : ∀ earlier, earlier <:+ calls →
      ((new capacity defaultTtl clock).replay earlier).2.Fresh) :
    Recent ((new capacity defaultTtl clock).replay calls).1
      ((new capacity defaultTtl clock).replay calls).2 := by
  -- On the calls made: before each of them the keys in the store are the most recent ones.
  induction calls with
  | nil => simp [Recent, replay, new, touched, recency]
  | cons a earlier ih =>
    have recent := ih (fun b hb => hcalls b (List.mem_cons_of_mem a hb))
      fun before hbefore => fresh before (hbefore.trans (List.suffix_cons a earlier))
    have hcapacity := ((new capacity defaultTtl clock).replay_setup earlier).1
    rw [replay_cons]
    have hroom : 0 < ((new capacity defaultTtl clock).replay earlier).2.capacity := by
      rw [hcapacity]
      exact Nat.le_max_right capacity 1
    exact recent.access hroom (fresh earlier (List.suffix_cons a earlier))
      (hcalls a List.mem_cons_self)

theorem time_le_replay (m : MemoryCache) (calls : List Access) :
    ∀ v ∈ (m.replay calls).1, v.time ≤ (m.replay calls).2.clock.now := by
  induction calls with
  | nil => simp [replay]
  | cons a earlier ih =>
    rw [replay_cons]
    intro v hv
    rcases List.mem_cons.mp hv with rfl | hv
    · exact Nat.le_refl _
    · exact (ih v hv).trans (now_le_access _ a)

/-- What a lookup finds is what was set last, and has not expired. -/
theorem Follows.of_get (h : Follows past m) {key value : String}
    (hget : (m.get key).1 = some value) :
    ∃ v ttl, latestSet? key past = some v ∧ v.access = .set key value ttl ∧
      key ∈ m.fragments.map Fragment.key ∧
      ∀ deadline, v.deadline? m.defaultTtl = some deadline → m.clock.look.now < deadline := by
  obtain ⟨f, hf, rfl, rfl, hlive⟩ := get_eq_some hget
  obtain ⟨v, ttl, hv, hset, hdeadline⟩ := h f hf
  refine ⟨v, ttl, hv, hset, List.mem_map_of_mem hf, ?_⟩
  rw [← hdeadline]
  intro deadline hd
  rw [Fragment.isExpired, hd] at hlive
  simpa using hlive

/-- What was set last is found while its key is in the store. -/
theorem Follows.get_eq (h : Follows past m) (fresh : m.Fresh) {key value : String} {v : Visit}
    {ttl : Option Nat} (hv : latestSet? key past = some v) (hset : v.access = .set key value ttl)
    (hkey : key ∈ m.fragments.map Fragment.key) : (m.get key).1 = some value := by
  obtain ⟨hnone, _⟩ | ⟨f, hfind, hexpired, _⟩ | ⟨f, hfind, _, hget⟩ := m.get_cases key
  · exact absurd hkey (find?_eq_none.mp hnone)
  · rw [fresh f (find?_eq_some hfind).1] at hexpired
    cases hexpired
  · obtain ⟨hf, rfl⟩ := find?_eq_some hfind
    obtain ⟨w, ttl', hw, hset', _⟩ := h f hf
    rw [hv] at hw
    cases hw
    rw [hset] at hset'
    cases hset'
    rw [hget]

theorem Recent.mem_iff (h : Recent past m) {key : String} :
    key ∈ m.fragments.map Fragment.key ↔ key ∈ touched past ∧
      ((touched past).takeWhile (· != key)).toFinset.card < m.capacity := by
  rw [h, mem_take_iff, mem_recency, length_takeWhile_recency]

/-- In a run of lookups and sets in which no fragment expires, a lookup finds just what was set last
under its key if fewer other keys were touched since than there is room for. After any run it finds
nothing else, and nothing that has expired. -/
theorem get_eq_some_iff_recent {capacity : Nat} {defaultTtl : Option Nat} {clock : Clock}
    {calls : List Access} {past : History} {m : MemoryCache}
    (h : (new capacity defaultTtl clock).replay calls = (past, m)) (key value : String) :
    ((∀ a ∈ calls, a.keeps = true) →
      (∀ earlier, earlier <:+ calls → ((new capacity defaultTtl clock).replay earlier).2.Fresh) →
      ((m.get key).1 = some value ↔
        (∃ v ttl, latestSet? key past = some v ∧ v.access = .set key value ttl) ∧
          ((touched past).takeWhile (· != key)).toFinset.card < max capacity 1)) ∧
    ((m.get key).1 = some value →
      ∃ v ttl, latestSet? key past = some v ∧ v.access = .set key value ttl ∧
        ttl.or defaultTtl ≠ some 0 ∧
        ∀ deadline, v.deadline? defaultTtl = some deadline → m.clock.look.now < deadline) := by
  have follows : Follows past m := by
    simpa only [h] using follows_replay capacity defaultTtl clock calls
  have times : ∀ v ∈ past, v.time ≤ m.clock.now := by
    simpa only [h] using (new capacity defaultTtl clock).time_le_replay calls
  have setup := (new capacity defaultTtl clock).replay_setup calls
  rw [h] at setup
  obtain ⟨hcapacity, httl⟩ : m.capacity = max capacity 1 ∧ m.defaultTtl = defaultTtl := setup
  constructor
  · intro hcalls fresh
    have recent : Recent past m := by simpa only [h] using recent_replay hcalls fresh
    have fresh : m.Fresh := by simpa only [h] using fresh calls List.suffix_rfl
    rw [← hcapacity]
    constructor
    · intro hget
      obtain ⟨v, ttl, hv, hset, hkey, _⟩ := follows.of_get hget
      exact ⟨⟨v, ttl, hv, hset⟩, (recent.mem_iff.mp hkey).2⟩
    · rintro ⟨⟨v, ttl, hv, hset⟩, hfew⟩
      exact follows.get_eq fresh hv hset
        (recent.mem_iff.mpr ⟨mem_touched_of_latestSet? hv, hfew⟩)
  · intro hget
    obtain ⟨v, ttl, hv, hset, _, hdeadline⟩ := follows.of_get hget
    rw [httl] at hdeadline
    refine ⟨v, ttl, hv, hset, ?_, hdeadline⟩
    -- With no time to live the deadline is when it was set, which the clock has passed.
    intro hzero
    have hlt := hdeadline v.time (by simp [Visit.deadline?, hset, hzero])
    have hle := times v (latestSet?_mem hv).1
    have := m.now_le_look
    omega

/-- In a store with room for two, the key that a lookup found is still there after the next set,
while seconds pass. -/
theorem get_eq_some_iff_recent_found :
    ∃ past m, (new 2 (some 9) ⟨0, [3, 1]⟩).replay
        [.set "c" "3" none, .get "a", .set "b" "2" none, .set "a" "1" (some 4)] = (past, m) ∧
      (m.get "a").1 = some "1" ∧ (m.get "b").1 ≠ some "2" := by
  have keeps : ∀ a ∈ [Access.set "c" "3" none, .get "a", .set "b" "2" none, .set "a" "1" (some 4)],
      a.keeps = true := by decide
  have fresh : ∀ earlier, earlier <:+
      [Access.set "c" "3" none, .get "a", .set "b" "2" none, .set "a" "1" (some 4)] →
      ((new 2 (some 9) ⟨0, [3, 1]⟩).replay earlier).2.Fresh := by
    simp only [← List.mem_tails]
    decide +kernel
  refine ⟨_, _, rfl, ?_, ?_⟩
  · exact ((get_eq_some_iff_recent rfl "a" "1").1 keeps fresh).mpr
      ⟨⟨_, some 4, rfl, rfl⟩, by decide +kernel⟩
  · intro hget
    have hfew := (((get_eq_some_iff_recent rfl "b" "2").1 keeps fresh).mp hget).2
    exact absurd hfew (by decide +kernel)

end MemoryCache

end PageFilters
