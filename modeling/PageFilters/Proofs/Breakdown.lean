import PageFilters.Proofs.Ledger
import PageFilters.Proofs.Quiet

namespace PageFilters

namespace Ledger

variable {l l' : Ledger}

theorem Posts.discarded_subset (h : l.Posts l') : l.discarded ⊆ l'.discarded := by
  cases h with
  | abandon ticket => exact fun _ => List.mem_append_right _
  | _ => exact List.Subset.refl _

/-- A producer is not both run and given up. -/
theorem Sound.not_started (h : l.Sound) {ticket : Nat} (ht : ticket ∈ l.discarded) :
    ticket ∉ l.started := by
  intro hstarted
  have hnumbers : l.registered.reverse.Nodup := h.registered ▸ List.nodup_range'
  have hfates := h.accounted.nodup ((List.reverse_perm _).nodup hnumbers)
  rw [List.nodup_append, List.nodup_append] at hfates
  exact hfates.1.2.2 _ hstarted _ ht rfl

end Ledger

namespace State

variable {s s' : State}

theorem Leads.discarded_subset (h : s.Leads s') : s.ledger.discarded ⊆ s'.ledger.discarded :=
  leads_of_invariant (P := fun t => s.ledger.discarded ⊆ t.ledger.discarded)
    (fun _ _ hchange ht => List.Subset.trans ht hchange.posts.discarded_subset) h
    (List.Subset.refl _)

theorem mem_started (s : State) (ticket : Nat) :
    ticket ∈ s.ledger.started ↔ .started ticket ∈ s.journal := by
  simp only [ledger, List.mem_filterMap]
  constructor
  · rintro ⟨event, hevent, hstarted⟩
    cases event <;> simp_all [Event.started?]
  · exact fun h => ⟨_, h, rfl⟩

/-- Whoever was given up does not run, whatever calls are made on the request from then on. -/
theorem Leads.never_started {filters : Registry} {markers : MarkerSource} {cache : Cache}
    (hs : State.Leads { request := { filters, markers }, cache } s) (h : s.Leads s') {ticket : Nat}
    (ht : ticket ∈ s.ledger.discarded) (fuel : Nat) (as : List Action) :
    .started ticket ∉ ((Watch.ofFuel fuel).actAll (.ofFuel fuel) as s').state.journal := by
  have hlater := ((Watch.sound_ofFuel fuel).actAll (Engine.lawful_ofFuel fuel) as s').leads
  have hsound := Leads.sound_ledger ((hs.trans h).trans hlater) ⟨rfl, .nil, .nil⟩
  rw [← mem_started]
  exact hsound.not_started (Leads.discarded_subset (h.trans hlater) ht)

end State

/-- What a flush leaves that broke off. The texts of its turns stand where their markers stood
first, and what was printed follows. Nothing waits, and of all who waited or were registered in the
meantime those who had no turn never run. -/
structure Broken (s : State) (turns : List Turn) (p : Pending) (printed : String) (s' : State) :
    Prop where
  output : s'.request.output = s.request.output
  finished : s'.request.finished = s.request.finished
  buffer : ∃ text, Filled s.request.buffer turns text ∧ s'.request.buffer = text ++ printed
  clear : s'.request.queue.Clear
  lost : ∃ fresh lost, s.Admits fresh s' ∧
    s.request.queue.pending ++ fresh = turns.map Turn.entry ++ p :: lost ∧
    ∀ q ∈ lost, ∀ s'', s'.Leads s'' → ∀ fuel as,
      .started q.ticket ∉ ((Watch.ofFuel fuel).actAll (.ofFuel fuel) as s'').state.journal

theorem Breaks.broken {filters : Registry} {markers : MarkerSource} {cache : Cache} {s s₁ : State}
    {turns : List Turn} {p : Pending} {error : RenderError} {printed : String}
    (hs : State.Leads { request := { filters, markers }, cache } s)
    (h : Breaks { s with request.buffer := "" } s.request.buffer turns p error printed s₁) :
    ∃ s', (∃ n, ∀ fuel ≥ n, (Engine.ofFuel fuel).flushBuffer s =
        some (.error (.deferredProducer p.marker turns.length error), s')) ∧
      Broken s turns p printed s' := by
  have hproceeds := h.proceeds
  have hfilled := filled_iff.mpr (Eq.refl (turns.foldl Turn.fill s.request.buffer))
  obtain ⟨n, hflush⟩ := h.flush hfilled
  obtain ⟨fresh, hadmits, hqueue⟩ := hproceeds.queue
  refine ⟨_, ⟨n, hflush⟩, hproceeds.output, hproceeds.finished, ⟨_, hfilled, rfl⟩, ⟨rfl, rfl⟩,
    fresh, s₁.request.queue.pending, ⟨hadmits.registered, hadmits.tickets⟩, ?_, ?_⟩
  · rw [hqueue, List.append_assoc, List.singleton_append]
  · -- The journal has them as given up once the flush is over.
    intro q hq s'' hlater
    have hleads := ((Engine.lawful_ofFuel n).flushBuffer (hflush n (Nat.le_refl n))).leads
    refine State.Leads.never_started (hs.trans hleads) hlater ?_
    change q.ticket ∈ (s₁.abandon p.ticket).ledger.discarded
    rw [State.abandon_ledger]
    exact List.mem_append_left _ (List.mem_reverse.mpr (List.mem_map_of_mem hq))

/-- A flush in which a producer fails reports it with its position and leaves the request broken off
there. Where no producer flushes or finishes the request, this is the only way for a flush to
fail. -/
theorem flush_breaks {filters : Registry} {markers : MarkerSource} {cache : Cache} {s : State}
    (hs : State.Leads { request := { filters, markers }, cache } s) :
    (∀ turns p error printed s₁,
      Breaks { s with request.buffer := "" } s.request.buffer turns p error printed s₁ →
      ∃ s', (∃ n, ∀ fuel ≥ n, (Engine.ofFuel fuel).flushBuffer s =
          some (.error (.deferredProducer p.marker turns.length error), s')) ∧
        Broken s turns p printed s') ∧
    (s.Quiet → ∀ fuel failure s', (Engine.ofFuel fuel).flushBuffer s = some (.error failure, s') →
      ∃ turns p error printed s₁,
        Breaks { s with request.buffer := "" } s.request.buffer turns p error printed s₁ ∧
        failure = .deferredProducer p.marker turns.length error ∧
        Broken s turns p printed s') := by
  refine ⟨fun turns p error printed s₁ h => h.broken hs, fun quiet fuel failure s' hflush => ?_⟩
  obtain ⟨hok, _⟩ | ⟨turns, p, error, printed, s₁, _, hbreaks⟩ := quiet.flush hflush
  · cases hok
  · obtain ⟨s₂, ⟨n, hn⟩, hbroken⟩ := hbreaks.broken hs
    cases Engine.flushBuffer_unique hflush (hn n (Nat.le_refl n))
    exact ⟨turns, p, error, printed, s₁, hbreaks, rfl, hbroken⟩

/-- Three producers, the first of which registers a fourth. The second fails. -/
theorem flush_breaks_growing :
    ∃ s s', State.Leads { request := { filters := {}, markers := .distinct "n" 0 } } s ∧
      s.request.queue.pending.map Pending.marker =
        [.numbered "n" 1, .numbered "n" 2, .numbered "n" 3] ∧
      s.request.buffer = (Marker.numbered "n" 1).text ++ "-" ++ (Marker.numbered "n" 3).text ∧
      (∃ n, ∀ fuel ≥ n, (Engine.ofFuel fuel).flushBuffer s =
        some (.error (.deferredProducer (.numbered "n" 2) 1 (.component "down")), s')) ∧
      s'.request.buffer = "a-" ++ (Marker.numbered "n" 3).text ++ "xy" ∧
      ∀ ticket ∈ [3, 4], ∀ fuel as,
        .started ticket ∉ ((Watch.ofFuel fuel).actAll (.ofFuel fuel) as s').state.journal := by
  obtain ⟨s, s₁, p, turns, printed, hs, hbreaks, hmarkers, hstart, hwaiting, hissued, hturns,
      hlength, hticket, hmarker, hbuffer, s', hflush, hissued'⟩ : ∃ s s₁ p turns printed,
      State.Leads { request := { filters := {}, markers := .distinct "n" 0 } } s ∧
      Breaks { s with request.buffer := "" } s.request.buffer turns p (.component "down") printed
        s₁ ∧
      s.request.queue.pending.map Pending.marker =
        [.numbered "n" 1, .numbered "n" 2, .numbered "n" 3] ∧
      s.request.buffer = (Marker.numbered "n" 1).text ++ "-" ++ (Marker.numbered "n" 3).text ∧
      s.request.queue.pending.map Pending.ticket = [1, 2, 3] ∧ s.request.queue.registered = 3 ∧
      (turns.map Turn.entry).map Pending.ticket = [1] ∧ turns.length = 1 ∧
      p.ticket = 2 ∧ p.marker = .numbered "n" 2 ∧
      turns.foldl Turn.fill s.request.buffer ++ printed =
        "a-" ++ (Marker.numbered "n" 3).text ++ "xy" ∧
      ∃ s', (Engine.ofFuel 5).flushBuffer s =
          some (.error (.deferredProducer (.numbered "n" 2) 1 (.component "down")), s') ∧
        s'.request.queue.registered = 4 :=
    ⟨_, _, _, _, _, .tail (.tail (.tail (.tail (.tail .refl
      (.defer (.perform (.print "x") fun _ => .defer (.literal "young") fun _ => .literal "a")))
      (.print ((Marker.numbered "n" 1).text ++ "-")))
      (.defer (.perform (.print "y") fun _ => .fail (.component "down"))))
      (.defer (.literal "lost"))) (.print (Marker.numbered "n" 3).text),
      .intro (.cons rfl (.perform rfl (.defer .done)) .nil) rfl (.perform rfl .done), rfl, rfl, rfl,
      rfl, rfl, rfl, rfl, rfl, by decide, _, rfl, rfl⟩
  obtain ⟨s'', ⟨n, hn⟩, hbroken⟩ := (flush_breaks hs).1 _ _ _ _ _ hbreaks
  obtain ⟨text, hfilled, hbuffer'⟩ := hbroken.buffer
  obtain ⟨fresh, lost, hadmits, hfates, hnever⟩ := hbroken.lost
  rw [filled_iff.mp hfilled, hbuffer] at hbuffer'
  rw [hmarker, hlength] at hn
  cases Engine.flushBuffer_unique (hn n (Nat.le_refl n)) hflush
  have hfresh : fresh.map Pending.ticket = [4] := by
    have hregistered := hadmits.registered
    have htickets := hadmits.tickets
    rw [hissued, hissued'] at hregistered
    rw [hissued, show fresh.length = 1 by omega] at htickets
    exact htickets
  have hlost : lost.map Pending.ticket = [3, 4] := by
    have htickets := congrArg (List.map Pending.ticket) hfates
    rw [List.map_append, List.map_append, List.map_cons, hwaiting, hfresh, hturns, hticket]
      at htickets
    simpa using htickets.symm
  refine ⟨s, s', hs, hmarkers, hstart, ⟨n, hn⟩, hbuffer', fun ticket ht fuel as => ?_⟩
  obtain ⟨q, hq, rfl⟩ := List.mem_map.mp (hlost ▸ ht)
  exact hnever q hq s' .refl fuel as

end PageFilters
