import PageFilters.Proofs.Tapping

namespace PageFilters

variable {tap : Tap} {calls : Call → Prop} {old : String}

namespace State

theorem slot_writeSlot (s : State) (name text other : String) :
    (s.writeSlot name text).slot other = if name = other then text else s.slot other := by
  simp only [slot, writeSlot, Std.TreeMap.getD_insert, Std.LawfulEqCmp.compare_eq_iff_eq]

theorem slot_openSlot (s : State) (name other : String) :
    (s.openSlot name).slot other = s.slot other := by
  rw [openSlot, slot_writeSlot]
  split
  next h => rw [h]
  next => rfl

/-- A lookup touches the cache and the journal, and depends on nothing else. -/
theorem cacheGet_congr {s t : State} (hcache : s.cache = t.cache) (hjournal : s.journal = t.journal)
    (key : String) : s.cacheGet key = ((t.cacheGet key).1,
      { s with cache := (t.cacheGet key).2.cache, journal := (t.cacheGet key).2.journal }) := by
  unfold cacheGet
  rw [← hcache]
  split
  next hc => rw [← hcache, ← hjournal]
  next m hc =>
    split
    next => simp only [record, hjournal]
    next => simp only [record, hjournal]

theorem cacheSet_congr {s t : State} (hcache : s.cache = t.cache) (hjournal : s.journal = t.journal)
    (key value : String) (ttl : Option Nat) : s.cacheSet key value ttl =
      { s with
        cache := (t.cacheSet key value ttl).cache
        journal := (t.cacheSet key value ttl).journal } := by
  unfold cacheSet
  rw [← hcache]
  split
  next hc => rw [← hcache, ← hjournal]
  next m hc =>
    split
    next => simp only [record, hjournal]
    next => simp only [hjournal]

end State

/-- At this moment a run with a tap is where a run without it is in the other state. The slot holds
the text of the last evaluation behind the tap, and nothing that waits cares for the slot. -/
structure Moment.Twin (tap : Tap) (calls : Call → Prop) (old : String) (m : Moment) (t : State) :
    Prop where
  request : m.state.request =
    { t.request with queue.pending := m.waiting.map (·.pending tap.outer) }
  pending : t.request.queue.pending = m.waiting.map (·.pending tap.inner)
  cache : m.state.cache = t.cache
  journal : m.state.journal = t.journal
  slots : ∀ name, name ≠ tap.slot → m.state.slot name = t.slot name
  text : m.state.slot tap.slot = m.texts.headD old
  waiting : ∀ w ∈ m.waiting, w.part.content.Avoids tap.slot calls
  filters : t.request.filters.Avoids tap.slot calls

namespace Moment.Twin

variable {m : Moment} {t : State}

/-- The same change on both sides to what is not the queue. -/
theorem edit (h : m.Twin tap calls old t) (f : Request → Request)
    (hf : ∀ r pending, f { r with queue.pending := pending } =
      { f r with queue.pending := pending })
    (hfilters : (f t.request).filters = t.request.filters) :
    (m.goto { m.state with request := f m.state.request }).Twin tap calls old
      { t with request := f t.request } where
  request := by
    change f m.state.request = _
    rw [h.request, hf]
    rfl
  pending := by
    have hkeep := congrArg (fun r => r.queue.pending) (hf t.request t.request.queue.pending)
    exact hkeep.trans h.pending
  cache := h.cache
  journal := h.journal
  slots := h.slots
  text := h.text
  waiting := h.waiting
  filters := by
    change (f t.request).filters.Avoids _ _
    rw [hfilters]
    exact h.filters

theorem buffer (h : m.Twin tap calls old t) :
    m.state.request.buffer = t.request.buffer := by rw [h.request]

theorem finished (h : m.Twin tap calls old t) :
    m.state.request.finished = t.request.finished := by rw [h.request]

theorem print (h : m.Twin tap calls old t) (text : String) :
    (m.goto (m.state.print text)).Twin tap calls old (t.print text) :=
  h.edit (fun r => { r with buffer := r.buffer ++ text }) (fun _ _ => rfl) rfl

theorem unload (h : m.Twin tap calls old t) :
    (m.goto { m.state with request.buffer := "" }).Twin tap calls old
      { t with request.buffer := "" } :=
  h.edit (fun r => { r with buffer := "" }) (fun _ _ => rfl) rfl

theorem record (h : m.Twin tap calls old t) (event : Event) :
    (m.goto (m.state.record event)).Twin tap calls old (t.record event) :=
  { h with journal := congrArg (event :: ·) h.journal }

theorem write (h : m.Twin tap calls old t) {name : String} (hname : name ≠ tap.slot)
    (text : String) :
    (m.goto (m.state.writeSlot name text)).Twin tap calls old (t.writeSlot name text) :=
  { h with
    slots := by
      intro other hother
      change (m.state.writeSlot name text).slot other = _
      rw [State.slot_writeSlot, State.slot_writeSlot, h.slots other hother]
    text := by
      change (m.state.writeSlot name text).slot tap.slot = _
      rw [State.slot_writeSlot, if_neg hname]
      exact h.text }

theorem resolve (h : m.Twin tap calls old t) (call : Call) :
    (m.state.resolve call).1 = (t.resolve call).1 ∧
      (m.goto (m.state.resolve call).2).Twin tap calls old (t.resolve call).2 := by
  have hslot : ∀ (s : State) name, (s.resolve call).2.slot name = s.slot name := fun s name =>
    State.resolve_keeps (State.slot · name) (fun s _ => s.slot_openSlot _ name) s call
  have hrequest := fun s : State => State.resolve_keeps State.request (fun _ _ => rfl) s call
  have hcache := fun s : State => State.resolve_keeps State.cache (fun _ _ => rfl) s call
  have hjournal := fun s : State => State.resolve_keeps State.journal (fun _ _ => rfl) s call
  constructor
  · change m.state.request.filters.resolve call = _
    rw [h.request]
    rfl
  · exact {
      request := by
        rw [hrequest t]
        exact (hrequest m.state).trans h.request
      pending := by
        rw [hrequest t]
        exact h.pending
      cache := ((hcache m.state).trans h.cache).trans (hcache t).symm
      journal := ((hjournal m.state).trans h.journal).trans (hjournal t).symm
      slots := fun name hname =>
        ((hslot m.state name).trans (h.slots name hname)).trans (hslot t name).symm
      text := (hslot m.state tap.slot).trans h.text
      waiting := h.waiting
      filters := by
        rw [hrequest t]
        exact h.filters }

theorem cacheGet (h : m.Twin tap calls old t) (key : String) :
    (m.state.cacheGet key).1 = (t.cacheGet key).1 ∧
      (m.goto (m.state.cacheGet key).2).Twin tap calls old (t.cacheGet key).2 := by
  rw [State.cacheGet_congr h.cache h.journal, State.cacheGet_congr rfl rfl (s := t) (t := t)]
  exact ⟨rfl, { h with cache := rfl, journal := rfl }⟩

theorem cacheSet (h : m.Twin tap calls old t) (key value : String) (ttl : Option Nat) :
    (m.goto (m.state.cacheSet key value ttl)).Twin tap calls old (t.cacheSet key value ttl) := by
  rw [State.cacheSet_congr h.cache h.journal, State.cacheSet_congr rfl rfl (s := t) (t := t)]
  exact { h with cache := rfl, journal := rfl }

/-- The same change of the store on both sides. -/
theorem change (h : m.Twin tap calls old t) (f : MemoryCache → MemoryCache) :
    (m.goto { m.state with cache := m.state.cache.change f }).Twin tap calls old
      { t with cache := t.cache.change f } :=
  { h with cache := congrArg (Cache.change f) h.cache }

theorem snapshot (h : m.Twin tap calls old t) :
    m.state.request.snapshot = t.request.snapshot := by
  have hsize : m.state.request.queue.size = t.request.queue.size := by
    rw [h.request, Queue.size, Queue.size, h.pending, List.length_map, List.length_map]
  rw [Request.snapshot, hsize, h.request]
  rfl

theorem substitute (h : m.Twin tap calls old t) (p q : Pending) (hticket : p.ticket = q.ticket)
    (hmarker : p.marker = q.marker) (text buffer : String) :
    (m.state.substitute p text buffer).1 = (t.substitute q text buffer).1 ∧
      (m.goto (m.state.substitute p text buffer).2).Twin tap calls old
        (t.substitute q text buffer).2 := by
  simp only [State.substitute, hmarker, hticket]
  split
  next => exact ⟨rfl, h.record _⟩
  next => exact ⟨rfl, h.record _⟩

theorem finishDrain (h : m.Twin tap calls old t) :
    (m.goto m.state.finishDrain).Twin tap calls old t.finishDrain :=
  h.edit (fun r => { r with queue := r.queue.finishDrain }) (fun _ _ => rfl) rfl

theorem abandon (h : m.Twin tap calls old t) (ticket : Nat) :
    ({ m with state := m.state.abandon ticket, waiting := [] } : Moment).Twin tap calls old
      (t.abandon ticket) :=
  { h with
    request := by
      change ({ m.state.request with queue := m.state.request.queue.abandon } : Request) = _
      rw [h.request]
      rfl
    pending := rfl
    journal := by
      have hdropped : m.state.request.queue.pending.map Pending.ticket =
          t.request.queue.pending.map Pending.ticket := by
        rw [h.request, h.pending, List.map_map, List.map_map]
        rfl
      have hevents := congrArg (List.map Event.discarded) hdropped
      rw [List.map_map, List.map_map] at hevents
      change (List.map (Event.discarded ∘ Pending.ticket) _).reverse ++ _ =
        (List.map (Event.discarded ∘ Pending.ticket) _).reverse ++ _
      rw [hevents, h.journal]
    waiting := nofun }

/-- The next producer on both sides, if there is one. -/
theorem next? (h : m.Twin tap calls old t) :
    (m.state.next? = none ∧ t.next? = none) ∨
    ∃ w ws s t', m.waiting = w :: ws ∧ m.state.next? = some (w.pending tap.outer, s) ∧
      t.next? = some (w.pending tap.inner, t') ∧ w.part.content.Avoids tap.slot calls ∧
      ({ m with state := s, waiting := ws } : Moment).Twin tap calls old t' := by
  have hpending : m.state.request.queue.pending = m.waiting.map (·.pending tap.outer) := by
    rw [h.request]
  have hpending' := h.pending
  cases hw : m.waiting with
  | nil =>
    rw [hw] at hpending hpending'
    exact .inl ⟨State.next?_nil hpending, State.next?_nil hpending'⟩
  | cons w ws =>
    rw [hw] at hpending hpending'
    have hwaiting := h.waiting
    rw [hw] at hwaiting
    refine .inr ⟨w, ws, _, _, rfl, State.next?_cons hpending, State.next?_cons hpending',
      hwaiting w List.mem_cons_self, ?_⟩
    exact { h with
      request := by
        change ({ m.state.request with
          queue.pending := _, queue.phase := .draining } : Request) = _
        rw [h.request]
        rfl
      pending := rfl
      journal := congrArg (Event.started w.ticket :: ·) h.journal
      waiting := fun o ho => hwaiting o (List.mem_cons_of_mem w ho) }

theorem defer (h : m.Twin tap calls old t) {p : Part} (hp : p.content.Avoids tap.slot calls) :
    (∃ s, m.state.defer (p.fill tap.outer) = (.error .requestFinished, s) ∧
      t.defer (p.fill tap.inner) = (.error .requestFinished, t) ∧
      (m.goto s).Twin tap calls old t) ∨
    ∃ marker s t', m.state.defer (p.fill tap.outer) = (.ok marker, s) ∧
      t.defer (p.fill tap.inner) = (.ok marker, t') ∧
      ({ m with
        state := s
        waiting := m.waiting ++ [⟨s.request.queue.registered, marker, p⟩] } : Moment).Twin
          tap calls old t' := by
  have hmarkers : m.state.request.markers = t.request.markers := by rw [h.request]
  have hregistered : m.state.request.queue.registered = t.request.queue.registered := by
    rw [h.request]
  obtain ⟨hf, hdefer⟩ | ⟨hf, marker, markers, hnext, hdefer⟩ :=
    m.state.defer_cases (p.fill tap.outer)
  · obtain ⟨_, hdefer'⟩ | ⟨hf', _⟩ := t.defer_cases (p.fill tap.inner)
    · exact .inl ⟨_, hdefer, hdefer', h⟩
    · rw [← h.finished, hf] at hf'
      cases hf'
  · obtain ⟨hf', _⟩ | ⟨_, marker', markers', hnext', hdefer'⟩ := t.defer_cases (p.fill tap.inner)
    · rw [← h.finished, hf] at hf'
      cases hf'
    · rw [hmarkers, hnext'] at hnext
      cases hnext
      refine .inr ⟨marker, _, _, hdefer, hdefer', ?_⟩
      exact { h with
        request := by
          change ({ m.state.request with
            markers, queue := m.state.request.queue.push _ _ } : Request) = _
          rw [h.request]
          simp [Queue.push, State.record, Waiting.pending]
        pending := by
          change t.request.queue.pending ++ _ = _
          rw [h.pending, List.map_append, ← hregistered]
          rfl
        journal := by
          change Event.registered _ :: _ = Event.registered _ :: _
          rw [hregistered, h.journal]
        waiting := by
          intro w hw
          rcases List.mem_append.mp hw with hw | hw
          · exact h.waiting w hw
          · rw [List.mem_singleton.mp hw]
            exact hp }

end Moment.Twin

end PageFilters
