import PageFilters.Proofs.Ledger
import PageFilters.Proofs.Outcome

namespace PageFilters

/-- The work done on a request so far, in numbers. -/
structure Tally where
  registered : Nat
  resolved : Nat
  missing : Nat
  flushes : Nat

def Tally.add (t : Tally) : Event → Tally
  | .registered _ => { t with registered := t.registered + 1 }
  | .resolved _ => { t with resolved := t.resolved + 1 }
  | .markerMissing _ => { t with missing := t.missing + 1 }
  | .flushed => { t with flushes := t.flushes + 1 }
  | _ => t

namespace State

def tally (s : State) : Tally where
  registered := s.counted "mason_defer_registered_total"
  resolved := s.counted "mason_defer_resolved_total"
  missing := s.counted "mason_defer_marker_missing_total"
  flushes := s.counted "mason_flush_ms"

theorem record_tally (s : State) (event : Event) : (s.record event).tally = s.tally.add event := by
  simp only [tally, counted, record, List.countP_cons]
  cases event <;> rfl

theorem cacheGet_tally (s : State) (key : String) : (s.cacheGet key).2.tally = s.tally := by
  unfold cacheGet
  split
  next => rfl
  next m _ =>
    cases m.get key with
    | mk found m' => cases found <;> exact record_tally _ _

theorem cacheSet_tally (s : State) (key value : String) (ttl : Option Nat) :
    (s.cacheSet key value ttl).tally = s.tally := by
  obtain ⟨_, hset⟩ | ⟨m, _, hset⟩ := s.cacheSet_cases key value ttl
  · rw [hset]
  · rw [hset]
    simp [tally, counted, Event.metric?]

end State

/-- Contents that wait, each with the marker that its text replaces. -/
abbrev Load := List (Marker × Wrapped)

namespace Load

/-- How many producers are drained if the contents are. -/
def weight : Load → Nat
  | [] => 0
  | (_, content) :: load => content.weight + weight load

/-- How many producers the contents register, drains included. -/
def promise : Load → Nat
  | [] => 0
  | (_, content) :: load => Item.defers content.items + promise load

def Stands (load : Load) (pending : List Pending) : Prop :=
  List.Forall₂ (fun c p => p.marker = c.1 ∧ p.producer = c.2.content) load pending

variable (load load' : Load)

@[simp] theorem weight_nil : weight [] = 0 := rfl

@[simp] theorem weight_cons (c : Marker × Wrapped) :
    weight (c :: load) = 1 + Item.defers c.2.items + load.weight := rfl

@[simp] theorem weight_append : weight (load ++ load') = load.weight + load'.weight := by
  induction load with
  | nil => simp
  | cons c load ih => simp only [List.cons_append, weight_cons, ih, Nat.add_assoc]

@[simp] theorem promise_nil : promise [] = 0 := rfl

@[simp] theorem promise_cons (c : Marker × Wrapped) :
    promise (c :: load) = Item.defers c.2.items + load.promise := rfl

@[simp] theorem promise_append : promise (load ++ load') = load.promise + load'.promise := by
  induction load with
  | nil => simp
  | cons c load ih => simp only [List.cons_append, promise_cons, ih, Nat.add_assoc]

theorem weight_eq : load.weight = load.length + load.promise := by
  induction load with
  | nil => rfl
  | cons c load ih =>
    rw [weight_cons, promise_cons, List.length_cons, ih]
    omega

end Load

/-- What a page keeps to while it is rendered. -/
structure Discipline where
  /-- Whether no cache answers and no marker is missing. -/
  strict : Prop
  source : MarkerSource → Prop
  marker : Marker → Prop
  /-- The contents that may be rendered. -/
  fit : Wrapped → Prop
  /-- What holds of the contents that wait and the buffer with their markers. -/
  good : Load → String → Prop
  /-- What holds of the output. -/
  shown : String → Prop

namespace Discipline

/-- What a text may become in filters, and what then waits. -/
inductive Comes (k : Discipline) (text : String) : List Item → String → Load → Prop
  | plain : Comes k text [] text []
  | rewrite {r : Rewrite} {is : List Item} {words : String} {load : Load}
      (h : Comes k text is words load) : Comes k text (.rewrite r :: is) (r.apply words) load
  | never {is : List Item} : Comes k text (.repeated 0 :: is) "" []
  | again {n : Nat} {is : List Item} {words words' : String} {load load' : Load}
      (h : Comes k text is words load) (h' : Comes k text (.repeated n :: is) words' load') :
      Comes k text (.repeated (n + 1) :: is) (words ++ words') (load ++ load')
  | hit {key : String} {ttl : Option Nat} {is : List Item} {value : String} (h : ¬ k.strict) :
      Comes k text (.cached key ttl :: is) value []
  | miss {key : String} {ttl : Option Nat} {is : List Item} {words : String} {load : Load}
      (h : Comes k text is words load) : Comes k text (.cached key ttl :: is) words load
  | later {is : List Item} {marker : Marker} (h : k.marker marker) :
      Comes k text (.deferred :: is) marker.text [(marker, ⟨is, text⟩)]

/-- The discipline is kept to: new markers are of its kind, and what holds of the buffer still does
when a text has been printed or put in place of a marker. -/
structure Lawful (k : Discipline) : Prop where
  next : ∀ source, k.source source → k.marker source.next.1 ∧ k.source source.next.2
  blank : k.good [] ""
  print : ∀ {c load buffer words load'}, k.fit c → k.good load buffer →
    k.Comes c.text c.items words load' → k.good (load ++ load') (buffer ++ words)
  turn : ∀ {m c load buffer words load'}, k.good ((m, c) :: load) buffer →
    k.Comes c.text c.items words load' →
    k.good (load ++ load') ((Text.substituteFirst m.text words buffer).getD buffer)
  found : ∀ {m c load buffer}, k.strict → k.good ((m, c) :: load) buffer →
    ∀ words, (Text.substituteFirst m.text words buffer).isSome = true
  emit : ∀ {output text}, k.shown output → k.good [] text → k.shown (output ++ text)

/-- A request under way. -/
structure Holds (k : Discipline) (s : State) : Prop where
  filters : s.request.filters = .standard
  source : k.source s.request.markers
  unfinished : s.request.finished = false
  cache : k.strict → s.cache.setup? = none

/-- The second state comes from the first by content that leaves the load to wait. -/
structure Registers (k : Discipline) (s : State) (load : Load) (s' : State) : Prop where
  holds : k.Holds s'
  buffer : s'.request.buffer = s.request.buffer
  output : s'.request.output = s.request.output
  pending : ∃ entries, s'.request.queue.pending = s.request.queue.pending ++ entries ∧
    load.Stands entries
  tally : s'.tally = { s.tally with registered := s.tally.registered + load.length }

variable {k : Discipline} {text : String} {s s' s'' : State} {load load' : Load}

theorem Comes.weight_le {is : List Item} {words : String} (h : k.Comes text is words load) :
    load.weight ≤ Item.defers is := by
  induction h with
  | plain => exact Nat.le_refl _
  | rewrite h ih => exact ih
  | never => exact Nat.zero_le _
  | again h h' ih ih' =>
    rw [Load.weight_append]
    simp only [Item.defers, Nat.succ_mul] at ih' ⊢
    omega
  | hit h => exact Nat.zero_le _
  | miss h ih => exact ih
  | later h =>
    rw [Load.weight_cons, Load.weight_nil, Item.defers]
    exact Nat.le_refl _

theorem Comes.weight_eq {is : List Item} {words : String} (hk : k.strict)
    (h : k.Comes text is words load) : load.weight = Item.defers is := by
  induction h with
  | plain => rfl
  | rewrite h ih => exact ih
  | never => rw [Item.defers, Nat.zero_mul, Load.weight_nil]
  | again h h' ih ih' =>
    rw [Load.weight_append, ih, ih', Item.defers, Item.defers, Nat.succ_mul, Nat.add_comm]
  | hit h => exact absurd hk h
  | miss h ih => exact ih
  | later h => rw [Load.weight_cons, Load.weight_nil, Item.defers, Nat.add_zero]

theorem Holds.of_request {t : State} (h : k.Holds s) (hr : t.request = s.request)
    (hc : t.cache.setup? = s.cache.setup?) : k.Holds t :=
  ⟨hr ▸ h.filters, hr ▸ h.source, hr ▸ h.unfinished, fun hk => hc ▸ h.cache hk⟩

namespace Registers

theorem refl (h : k.Holds s) : k.Registers s [] s where
  holds := h
  buffer := rfl
  output := rfl
  pending := ⟨[], (List.append_nil _).symm, .nil⟩
  tally := rfl

theorem trans (h : k.Registers s load s') (h' : k.Registers s' load' s'') :
    k.Registers s (load ++ load') s'' where
  holds := h'.holds
  buffer := h'.buffer.trans h.buffer
  output := h'.output.trans h.output
  pending := by
    obtain ⟨entries, hp, hq⟩ := h.pending
    obtain ⟨entries', hp', hq'⟩ := h'.pending
    exact ⟨entries ++ entries', by rw [hp', hp, List.append_assoc], List.rel_append hq hq'⟩
  tally := by rw [h'.tally, h.tally, List.length_append, Nat.add_assoc]

theorem of_request {t t' : State} (h : k.Registers s load s') (hs : s.request = t.request)
    (ht : t'.request = s'.request) (hc : t'.cache.setup? = s'.cache.setup?)
    (hn : s.tally = t.tally) (hn' : t'.tally = s'.tally) : k.Registers t load t' where
  holds := h.holds.of_request ht hc
  buffer := by rw [ht, ← hs, h.buffer]
  output := by rw [ht, ← hs, h.output]
  pending := by
    rw [ht, ← hs]
    exact h.pending
  tally := by rw [hn', ← hn, h.tally]

end Registers

theorem Holds.cacheGet (h : k.Holds s) (key : String) : k.Registers s [] (s.cacheGet key).2 :=
  (Registers.refl h).of_request rfl (s.cacheGet_request key) (s.cacheGet_setup key) rfl
    (s.cacheGet_tally key)

theorem Registers.cacheSet (h : k.Registers s load s') (key value : String) (ttl : Option Nat) :
    k.Registers s load (s'.cacheSet key value ttl) :=
  h.of_request rfl (s'.cacheSet_request key value ttl) (s'.cacheSet_setup key value ttl) rfl
    (s'.cacheSet_tally key value ttl)

/-- Under a strict discipline a cache never answers. -/
theorem Holds.not_strict_of_hit (h : k.Holds s) {key value : String} {s₁ : State}
    (hget : s.cacheGet key = (some value, s₁)) : ¬ k.strict := by
  intro hk
  have hsetup := h.cache hk
  obtain ⟨_, hnull⟩ | ⟨m, event, hc, _⟩ := s.cacheGet_cases key
  · rw [hnull] at hget
    cases hget
  · rw [hc] at hsetup
    cases hsetup

theorem run_repeatBody {e : Engine} {c : Content} {is : List Item}
    (hc : ∀ s, k.Holds s → ∃ words load s', e.runContent c s = some (.ok words, s') ∧
      k.Comes text is words load ∧ k.Registers s load s')
    (n : Nat) (before : String) (hs : k.Holds s) :
    ∃ words load s', e.runContent (.fill c (Filter.repeatBody n before)) s =
        some (.ok (before ++ words), s') ∧
      k.Comes text (.repeated n :: is) words load ∧ k.Registers s load s' := by
  induction n generalizing before s with
  | zero =>
    refine ⟨"", [], s, ?_, .never, .refl hs⟩
    rw [String.append_empty]
    rfl
  | succ n ih =>
    obtain ⟨words, load, s₁, hrun, h, hregisters⟩ := hc s hs
    obtain ⟨words', load', s₂, hrun', h', hregisters'⟩ := ih (before ++ words) hregisters.holds
    refine ⟨words ++ words', load ++ load', s₂, ?_, .again h h', hregisters.trans hregisters'⟩
    rw [Engine.runContent_repeatBody_succ e n _ hrun, hrun', String.append_assoc]

namespace Lawful

variable (lawful : k.Lawful)

include lawful

theorem defer (h : k.Holds s) (c : Wrapped) :
    ∃ m s', s.defer c.content = (.ok m, s') ∧ k.marker m ∧ k.Registers s [(m, c)] s' := by
  obtain ⟨hfinished, _⟩ | ⟨hunfinished, m, markers, hnext, hdefer⟩ := s.defer_cases c.content
  · rw [h.unfinished] at hfinished
    cases hfinished
  · obtain ⟨hm, hmarkers⟩ := lawful.next _ h.source
    rw [hnext] at hm hmarkers
    refine ⟨m, _, hdefer, hm, ⟨h.filters, hmarkers, hunfinished, h.cache⟩, rfl, rfl, ?_, ?_⟩
    · exact ⟨_, rfl, .cons ⟨rfl, rfl⟩ .nil⟩
    · exact State.record_tally _ _

/-- Content in filters runs to one of the texts that it may become, on any request under way. -/
theorem run (e : Engine) (text : String) (is : List Item) (hs : k.Holds s) :
    ∃ words load s', e.runContent (Wrapped.content ⟨is, text⟩) s = some (.ok words, s') ∧
      k.Comes text is words load ∧ k.Registers s load s' := by
  induction is generalizing s with
  | nil => exact ⟨text, [], s, rfl, .plain, .refl hs⟩
  | cons i is ih =>
    change ∃ words load s', e.runContent (i.filter.wrap (Wrapped.content ⟨is, text⟩)) s = _ ∧ _
    cases i with
    | rewrite r =>
      obtain ⟨words, load, s', hrun, h, hregisters⟩ := ih hs
      exact ⟨_, load, s', Engine.runContent_simple_ok e hrun, .rewrite h, hregisters⟩
    | repeated n =>
      obtain ⟨words, load, s', hrun, h, hregisters⟩ :=
        run_repeatBody (fun s hs => ih hs) n "" hs
      rw [String.empty_append] at hrun
      exact ⟨words, load, s', hrun, h, hregisters⟩
    | cached key ttl =>
      have hget := hs.cacheGet key
      rw [Item.filter_cached]
      cases hfound : s.cacheGet key with
      | mk found s₁ =>
        rw [hfound] at hget
        cases found with
        | some value =>
          refine ⟨value, [], s₁, ?_, .hit (hs.not_strict_of_hit hfound), hget⟩
          rw [Engine.runContent_cached, hfound]
        | none =>
          obtain ⟨words, load, s', hrun, h, hregisters⟩ := ih hget.holds
          refine ⟨words, load, s'.cacheSet key words ttl, ?_, .miss h,
            (hget.trans hregisters).cacheSet key words ttl⟩
          simp only [Engine.runContent_cached, hfound, hrun, Option.bind_some]
    | deferred =>
      obtain ⟨m, s', hdefer, hm, hregisters⟩ := lawful.defer hs ⟨is, text⟩
      refine ⟨m.text, _, s', ?_, .later hm, hregisters⟩
      rw [Item.filter_deferred, Filter.deferred_wrap]
      simp only [Engine.runContent, hdefer]
      rfl

end Lawful

end Discipline

end PageFilters
