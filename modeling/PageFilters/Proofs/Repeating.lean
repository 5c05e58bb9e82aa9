import PageFilters.Proofs.Changes
import Mathlib.Logic.Function.Iterate

namespace PageFilters

theorem Clock.now_le_iterate (c : Clock) (n : Nat) : c.now ≤ (look^[n] c).now := by
  induction n generalizing c with
  | zero => exact Nat.le_refl _
  | succ n ih => exact Nat.le_trans (Nat.le_add_right _ _) (ih c.look)

theorem Fragment.isExpired_of_le {f : Fragment} {now later : Nat} (h : now ≤ later)
    (hf : f.isExpired later = false) : f.isExpired now = false := by
  unfold isExpired at hf ⊢
  cases hd : f.deadline with
  | none => rfl
  | some deadline =>
    rw [hd] at hf
    simp only [Option.any_some, decide_eq_false_iff_not] at hf ⊢
    omega

namespace Cache

/-- What is under the key, if anything, has not expired when the clock has been looked at so many
times. -/
def Lasts (key : String) (looks : Nat) : Cache → Prop
  | memory m => ∀ f ∈ m.find? key, f.isExpired (Clock.look^[looks] m.clock).now = false
  | null => True

/-- The value is under the key, and has not expired when the clock has been looked at so many
times. -/
def Serves (key value : String) (looks : Nat) : Cache → Prop
  | memory m => ∃ f, m.find? key = some f ∧ f.value = value ∧
      f.isExpired (Clock.look^[looks] m.clock).now = false
  | null => False

theorem Serves.sooner {key value : String} {looks : Nat} {cache : Cache}
    (h : cache.Serves key value (looks + 1)) : cache.Serves key value looks := by
  cases cache with
  | null => exact h
  | memory m =>
    obtain ⟨f, hfind, hvalue, hlive⟩ := h
    rw [Function.iterate_succ_apply'] at hlive
    exact ⟨f, hfind, hvalue, Fragment.isExpired_of_le (Nat.le_add_right _ _) hlive⟩

end Cache

namespace MemoryCache

variable {m : MemoryCache} {key value : String} {looks : Nat}

theorem get_serves (h : (Cache.memory m).Serves key value (looks + 1)) :
    (m.get key).1 = some value ∧ (Cache.memory (m.get key).2).Serves key value looks := by
  obtain ⟨f, hfind, hvalue, hlive⟩ := h
  have hnow : f.isExpired m.clock.look.now = false :=
    Fragment.isExpired_of_le (m.clock.look.now_le_iterate looks) hlive
  obtain ⟨hnone, _⟩ | ⟨g, hg, hexpired, _⟩ | ⟨g, hg, _, hget⟩ := m.get_cases key
  · rw [hfind] at hnone
    cases hnone
  · cases Option.some.inj (hfind.symm.trans hg)
    rw [hnow] at hexpired
    cases hexpired
  · cases Option.some.inj (hfind.symm.trans hg)
    have hfirst : (f.key == key) = true := beq_iff_eq.mpr (find?_eq_some hfind).2
    rw [hget]
    exact ⟨congrArg some hvalue, f, List.find?_cons_of_pos hfirst, hvalue, hlive⟩

theorem serves_of_get (h : (m.get key).1 = some value) (hlasts : (Cache.memory m).Lasts key looks) :
    (Cache.memory m).Serves key value looks := by
  obtain ⟨_, hget⟩ | ⟨f, _, _, hget⟩ | ⟨f, hfind, _, hget⟩ := m.get_cases key
  · rw [hget] at h
    cases h
  · rw [hget] at h
    cases h
  · rw [hget] at h
    exact ⟨f, hfind, Option.some.inj h, hlasts f hfind⟩

/-- A store with room for anything serves what was put in last. -/
theorem serves_set (h : 0 < m.capacity) {ttl : Option Nat}
    (hlasts : (Cache.memory (m.set key value ttl).2).Lasts key looks) :
    (Cache.memory (m.set key value ttl).2).Serves key value looks := by
  have hfind : (m.set key value ttl).2.find? key = some (m.stored key value ttl) := by
    obtain ⟨room, hroom⟩ := Nat.exists_eq_add_of_lt h
    rw [Nat.zero_add] at hroom
    have hfirst : ((m.stored key value ttl).key == key) = true := beq_self_eq_true key
    rw [set_snd, find?, hroom, List.take_succ_cons]
    exact List.find?_cons_of_pos hfirst
  exact ⟨_, hfind, rfl, hlasts _ hfind⟩

end MemoryCache

namespace State

variable {s s' : State} {key value : String} {looks : Nat}

/-- Looks the key up a number of times, whatever is found. -/
def lookups (key : String) : Nat → State → State
  | 0, s => s
  | n + 1, s => lookups key n (s.cacheGet key).2

theorem cacheGet_serves (h : s.cache.Serves key value (looks + 1)) :
    (s.cacheGet key).1 = some value ∧ (s.cacheGet key).2.cache.Serves key value looks := by
  obtain ⟨hc, _⟩ | ⟨m, event, hc, hget⟩ := s.cacheGet_cases key
  · rw [hc] at h
    cases h
  · rw [hc] at h
    rw [hget]
    exact MemoryCache.get_serves h

theorem lookups_serves {n : Nat} (h : s.cache.Serves key value (n + looks)) :
    (s.lookups key n).cache.Serves key value looks := by
  induction n generalizing s with
  | zero => rwa [Nat.zero_add] at h
  | succ n ih =>
    rw [Nat.succ_add] at h
    exact ih (cacheGet_serves h).2

theorem serves_of_cacheGet (h : (s.cacheGet key).1 = some value)
    (hlasts : s.cache.Lasts key looks) : s.cache.Serves key value looks := by
  obtain ⟨_, hget⟩ | ⟨m, event, hc, hget⟩ := s.cacheGet_cases key
  · rw [hget] at h
    cases h
  · rw [hget] at h
    rw [hc] at hlasts ⊢
    exact MemoryCache.serves_of_get h hlasts

theorem cacheSet_serves {capacity : Nat} {defaultTtl ttl : Option Nat}
    (h : s.cache.setup? = some (capacity, defaultTtl)) (hcapacity : 0 < capacity)
    (hlasts : (s.cacheSet key value ttl).cache.Lasts key looks) :
    (s.cacheSet key value ttl).cache.Serves key value looks := by
  obtain ⟨hc, _⟩ | ⟨m, hc, hset⟩ := s.cacheSet_cases key value ttl
  · rw [hc] at h
    cases h
  · rw [hc] at h
    cases h
    rw [hset] at hlasts ⊢
    exact MemoryCache.serves_set hcapacity hlasts

/-- No run sets the cache up anew. -/
theorem Change.setup (h : Change s s') : s'.cache.setup? = s.cache.setup? := by
  cases h with
  | cacheGet key => exact s.cacheGet_setup key
  | cacheSet key value ttl => exact s.cacheSet_setup key value ttl
  | cacheInvalidate key => exact s.cache.setup?_change (·.invalidate key) fun _ => rfl
  | cacheClear => exact s.cache.setup?_change MemoryCache.clear fun _ => rfl
  | defer producer =>
    obtain ⟨_, hdefer⟩ | ⟨_, _, _, _, hdefer⟩ := s.defer_cases producer
    · rw [hdefer]
    · rw [hdefer]
      rfl
  | take hnext =>
    obtain ⟨_, hnone⟩ | ⟨p, rest, _, hsome⟩ := s.next?_cases
    · rw [hnone] at hnext
      cases hnext
    · rw [hsome] at hnext
      cases hnext
      rfl
  | substitute p text buffer =>
    obtain ⟨event, hrecord⟩ := s.substitute_snd p text buffer
    rw [hrecord]
    rfl
  | _ => rfl

theorem Leads.setup (h : s.Leads s') : s'.cache.setup? = s.cache.setup? :=
  leads_of_invariant (P := fun t => t.cache.setup? = s.cache.setup?)
    (fun _ _ hchange ht => hchange.setup.trans ht) h rfl

end State

namespace Filter

variable {s : State} {key value : String}

/-- As long as the cache serves the key, a repetition is nothing but lookups, whatever the
content. -/
theorem run_repeatBody_served (e : Engine) (c : Content) (ttl : Option Nat) (n : Nat)
    (output : String) (h : s.cache.Serves key value n) :
    e.runContent (.fill ((cached key ttl).wrap c) (repeatBody n output)) s =
      some (.ok (output ++ String.join (List.replicate n value)), s.lookups key n) := by
  induction n generalizing output s with
  | zero => simp [repeatBody, Content.literal, Content.fill, Engine.runContent, State.lookups]
  | succ n ih =>
    obtain ⟨hhit, hrest⟩ := State.cacheGet_serves h
    have hget : s.cacheGet key = (some value, (s.cacheGet key).2) := Prod.ext hhit rfl
    have hrun : e.runContent ((cached key ttl).wrap c) s =
        some (.ok value, (s.cacheGet key).2) := by
      rw [Engine.runContent_cached, hget]
    rw [Engine.runContent_repeatBody_succ e n output hrun, ih _ hrest, List.replicate_succ,
      String.join_cons, String.append_assoc]
    rfl

theorem run_repeatBody_succ (e : Engine) (c : Content) (n : Nat) (output : String) (s : State) :
    e.runContent (.fill c (repeatBody (n + 1) output)) s =
      (e.runContent c s).bind fun
        | (.ok text, s) => e.runContent (.fill c (repeatBody n (output ++ text))) s
        | (.error error, s) => some (.error error, s) := by
  simp only [repeatBody, Content.fill, Engine.runContent_andThen]
  congr 1
  funext out
  obtain ⟨result, s'⟩ := out
  cases result <;> rfl

theorem run_cached_miss (e : Engine) (c : Content) (ttl : Option Nat)
    (h : (s.cacheGet key).1 = none) :
    e.runContent ((cached key ttl).wrap c) s =
      (e.runContent c (s.cacheGet key).2).bind fun
        | (.ok text, s) => some (.ok text, s.cacheSet key text ttl)
        | (.error error, s) => some (.error error, s) := by
  have hget : s.cacheGet key = (none, (s.cacheGet key).2) := Prod.ext h rfl
  have hrun : e.runContent ((cached key ttl).wrap c) s = _ := e.runContent_cached
  rw [hget] at hrun
  exact hrun

/-- A repetition around a cache does not render the content if the cache has the key, and renders it
a single time if not, whatever the content does to the cache and however small that is. -/
theorem repeated_cached_renders_once {m : MemoryCache} (hcache : s.cache = .memory m)
    (hcapacity : 0 < m.capacity) (n : Nat) (key : String) (ttl : Option Nat) :
    (∀ value, (s.cacheGet key).1 = some value → s.cache.Lasts key (n + 2) →
      ((s.lookups key (n + 1)).cacheGet key).1 = some value ∧
      ∀ fuel c,
        (Engine.ofFuel fuel).runContent (compose [repeated (n + 1), cached key ttl] c) s =
          some (.ok (String.join (List.replicate (n + 1) value)), s.lookups key (n + 1))) ∧
    ((s.cacheGet key).1 = none → ∀ fuel c,
      (∀ text s', (Engine.ofFuel fuel).runContent c (s.cacheGet key).2 = some (.ok text, s') →
        (s'.cacheSet key text ttl).cache.Lasts key (n + 1)) →
      (∀ text s', (Engine.ofFuel fuel).runContent c (s.cacheGet key).2 = some (.ok text, s') →
        (((s'.cacheSet key text ttl).lookups key n).cacheGet key).1 = some text) ∧
      (Engine.ofFuel fuel).runContent (compose [repeated (n + 1), cached key ttl] c) s =
        ((Engine.ofFuel fuel).runContent c (s.cacheGet key).2).map fun
          | (.ok text, s') => (.ok (String.join (List.replicate (n + 1) text)),
              (s'.cacheSet key text ttl).lookups key n)
          | (.error error, s') => (.error error, s')) := by
  have hcompose : ∀ c, compose [repeated (n + 1), cached key ttl] c =
      .fill ((cached key ttl).wrap c) (repeatBody (n + 1) "") := fun _ => rfl
  constructor
  · intro value hhit hlasts
    have hserves : s.cache.Serves key value (n + 1 + 1) := State.serves_of_cacheGet hhit hlasts
    refine ⟨(State.cacheGet_serves (State.lookups_serves hserves)).1, fun fuel c => ?_⟩
    rw [hcompose, run_repeatBody_served _ c ttl (n + 1) "" hserves.sooner, String.empty_append]
  · intro hmiss fuel c hlasts
    have hserves : ∀ text s',
        (Engine.ofFuel fuel).runContent c (s.cacheGet key).2 = some (.ok text, s') →
        (s'.cacheSet key text ttl).cache.Serves key text (n + 1) := by
      intro text s' hrun
      have hsetup := ((Engine.lawful_ofFuel fuel).runContent hrun).leads.setup
      rw [s.cacheGet_setup, hcache] at hsetup
      exact State.cacheSet_serves hsetup hcapacity (hlasts text s' hrun)
    refine ⟨fun text s' hrun =>
      (State.cacheGet_serves (State.lookups_serves (hserves text s' hrun))).1, ?_⟩
    rw [hcompose, run_repeatBody_succ, run_cached_miss _ c ttl hmiss]
    cases hrun : (Engine.ofFuel fuel).runContent c (s.cacheGet key).2 with
    | none => rfl
    | some out =>
      obtain ⟨result, s'⟩ := out
      cases result with
      | error error => rfl
      | ok text =>
        -- The first repetition has stored the text, so that the others find it.
        have hstored := (hserves text s' hrun).sooner
        have hrest := run_repeatBody_served (.ofFuel fuel) c ttl n text hstored
        rw [← String.join_cons, ← List.replicate_succ] at hrest
        simpa only [Option.bind_some, Option.map_some, String.empty_append] using hrest

/-- A store with room for one text. While the text under `k` lives it is all that is seen. Once it
has expired, content is rendered that stores another text under `k` and then crowds it out. -/
theorem repeated_cached_renders_once_crowded :
    (∃ s, ∀ c, (Engine.ofFuel 1).runContent (compose [repeated 2, cached "k" none] c)
        { request := { filters := {}, markers := .distinct "n" 0 },
          cache := .memory ⟨1, none, [⟨"k", "old", some 5⟩], {}⟩ } = some (.ok "oldold", s)) ∧
    ∃ s, (Engine.ofFuel 1).runContent (compose [repeated 3, cached "k" (some 2)]
        (.perform (.cacheSet "k" "own" none) fun _ => .perform (.cacheSet "o" "x" none) fun _ =>
          .literal "v"))
        { request := { filters := {}, markers := .distinct "n" 0 },
          cache := .memory ⟨1, none, [⟨"k", "old", some 5⟩], ⟨0, [7, 0, 0, Clock.second]⟩⟩ } =
        some (.ok "vvv", s) ∧ (s.cacheGet "k").1 = some "v" := by
  constructor
  · have hrun := (repeated_cached_renders_once (s :=
      { request := { filters := {}, markers := .distinct "n" 0 },
        cache := .memory ⟨1, none, [⟨"k", "old", some 5⟩], {}⟩ }) rfl (by decide) 1 "k" none).1
      "old" rfl (fun f hf => by cases hf; decide)
    exact ⟨_, fun c => hrun.2 1 c⟩
  · have hrun := (repeated_cached_renders_once (s :=
      { request := { filters := {}, markers := .distinct "n" 0 },
        cache := .memory ⟨1, none, [⟨"k", "old", some 5⟩], ⟨0, [7, 0, 0, Clock.second]⟩⟩ })
      rfl (by decide) 2 "k" (some 2)).2 rfl 1
      (.perform (.cacheSet "k" "own" none) fun _ => .perform (.cacheSet "o" "x" none) fun _ =>
        .literal "v")
      (fun text s' h => by
        cases h
        intro f hf
        cases hf
        decide)
    exact ⟨_, hrun.2, hrun.1 _ _ rfl⟩

end Filter

end PageFilters
