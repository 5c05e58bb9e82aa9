import PageFilters.Proofs.Outcome

namespace PageFilters

/-- A buffer once a content has run: the text stands where the marker stood first, if it did. -/
def Line.fill (nonce : String) (k : Nat) (words buffer : String) : String :=
  (Text.substituteFirst (Marker.numbered nonce k).text words buffer).getD buffer

/-- What holds of a line and a buffer still does when the first content of the line has run. -/
structure Lasts (V : String → Prop) (nonce : String) (Good : Line → String → Prop) : Prop where
  storable : ∀ {k c q buffer}, Good ((k, c) :: q) buffer → Storable V nonce c.text c.items
  step : ∀ {k c q buffer words q'}, Good ((k, c) :: q) buffer →
    Outcome V nonce c.text c.items words q' → Good (q ++ q') (Line.fill nonce k words buffer)

/-- A page under way: a line of contents waits, and something holds of it and the buffer. -/
structure Underway (V : String → Prop) (nonce : String) (Good : Line → String → Prop) (q : Line)
    (s : State) : Prop where
  ready : Ready V nonce s
  stands : q.Stands nonce s.request.queue.pending
  good : Good q s.request.buffer

theorem State.substitute_fill {nonce : String} {k : Nat} {e : Pending}
    (he : e.marker = .numbered nonce k) (s : State) (words buffer : String) :
    (s.substitute e words buffer).1 = Line.fill nonce k words buffer := by
  rw [substitute_fst, he, Line.fill]

variable {V : String → Prop} {nonce : String} {Good : Line → String → Prop} {q : Line}
  {s : State}

/-- A drain runs the whole line, the contents registered meanwhile included. -/
theorem Lasts.drain (lasts : Lasts V nonce Good) (fuel position : Nat) {buffer : String}
    (hf : q.weight < fuel) (hs : Ready V nonce s) (stands : q.Stands nonce s.request.queue.pending)
    (good : Good q buffer) :
    ∃ text s', (Engine.ofFuel fuel).drain position buffer s = some (.ok (), text, s') ∧
      Good [] text ∧ Ready V nonce s' ∧ s'.request.queue.pending = [] ∧
      s'.request.buffer = s.request.buffer ∧ s'.request.output = s.request.output := by
  -- On fuel: what a content leaves to wait weighs less than the content did.
  induction fuel generalizing position q buffer s with
  | zero => omega
  | succ fuel ih =>
    cases q with
    | nil =>
      have hq : s.request.queue.pending = [] := List.forall₂_nil_left_iff.mp stands
      exact ⟨buffer, s.finishDrain, Engine.drain_nil hq, good,
        ⟨hs.filters, hs.markers, hs.unfinished, hs.cache⟩, hq, rfl, rfl⟩
    | cons c q =>
      obtain ⟨k, c⟩ := c
      obtain ⟨e, rest, ⟨hm, hproducer⟩, ht, hq⟩ := List.forall₂_cons_left_iff.mp stands
      have hs₁ : Ready V nonce (s.start e rest) :=
        ⟨hs.filters, hs.markers, hs.unfinished, hs.cache⟩
      obtain ⟨words, q', s₂, hrun, houtcome, hleaves⟩ :=
        run_outcome (Engine.ofFuel fuel) (lasts.storable good) hs₁
      obtain ⟨entries, hpending, hentries⟩ := hleaves.pending
      have hweight := houtcome.weight_le
      have hproduce : (Engine.ofFuel fuel).runContent e.producer (s.start e rest) =
          some (.ok words, s₂) := by
        rw [hproducer]
        exact hrun
      obtain ⟨event, hcons⟩ := Engine.drain_cons position buffer hq hproduce
      have hfuel : Line.weight (q ++ q') < fuel := by
        have hself : Line.weight ((k, c) :: q) = 1 + Item.defers c.items + Line.weight q := by
          simp [Line.weight, Wrapped.weight]
        rw [Line.weight_append]
        omega
      have hs₂ : Ready V nonce (s₂.record event) :=
        ⟨hleaves.ready.filters, hleaves.ready.markers, hleaves.ready.unfinished,
          hleaves.ready.cache⟩
      have hstands : Line.Stands nonce (q ++ q') (s₂.record event).request.queue.pending := by
        change Line.Stands nonce (q ++ q') s₂.request.queue.pending
        rw [hpending]
        exact List.rel_append ht hentries
      obtain ⟨text, s', hdrain, htext, hs', hnil, hbuffer, houtput⟩ :=
        ih (position + 1) hfuel hs₂ hstands (lasts.step good houtcome)
      refine ⟨text, s', ?_, htext, hs', hnil, hbuffer.trans hleaves.buffer,
        houtput.trans hleaves.output⟩
      rw [hcons, State.substitute_fill hm, hdrain]

theorem Underway.print {Good' : Line → String → Prop} {s' : State} {q' : Line} {words : String}
    (h : Underway V nonce Good q s) (hleaves : Leaves V nonce s q' s')
    (good : Good' (q ++ q') (s.request.buffer ++ words)) :
    Underway V nonce Good' (q ++ q') (s'.print words) where
  ready := ⟨hleaves.ready.filters, hleaves.ready.markers, hleaves.ready.unfinished,
    hleaves.ready.cache⟩
  stands := by
    obtain ⟨entries, hpending, hentries⟩ := hleaves.pending
    change Line.Stands nonce (q ++ q') s'.request.queue.pending
    rw [hpending]
    exact List.rel_append h.stands hentries
  good := by
    change Good' (q ++ q') (s'.request.buffer ++ words)
    rw [hleaves.buffer]
    exact good

namespace Underway

variable (lasts : Lasts V nonce Good) (h : Underway V nonce Good q s)

include lasts h

theorem flush (fuel : Nat) (hf : q.weight < fuel) :
    ∃ text s', (Engine.ofFuel fuel).flushBuffer s = some (.ok (), s') ∧ Good [] text ∧
      Ready V nonce s' ∧ s'.request.queue.pending = [] ∧ s'.request.buffer = "" ∧
      s'.request.output = s.request.output ++ text := by
  have hs : Ready V nonce { s with request.buffer := "" } :=
    ⟨h.ready.filters, h.ready.markers, h.ready.unfinished, h.ready.cache⟩
  obtain ⟨text, s', hdrain, htext, hs', hnil, hbuffer, houtput⟩ :=
    lasts.drain fuel 0 hf hs h.stands h.good
  refine ⟨text, _, Engine.flushBuffer_ok hdrain, htext,
    ⟨hs'.filters, hs'.markers, hs'.unfinished, hs'.cache⟩, hnil, hbuffer, ?_⟩
  change s'.request.output ++ text = _
  rw [houtput]

theorem finish (fuel : Nat) (hf : q.weight + 1 < fuel) :
    ∃ text s', (Engine.ofFuel fuel).finish s = some (.ok (s.request.output ++ text), s') ∧
      Good [] text ∧ s'.cache.Holds V := by
  obtain ⟨fuel, rfl⟩ : ∃ f, fuel = f + 1 := ⟨fuel - 1, by omega⟩
  obtain ⟨text, s₁, hflush, htext, hs₁, hnil, hbuffer, houtput⟩ :=
    h.flush lasts fuel (by omega)
  have hsettle := Engine.settle_done hflush hbuffer hnil
  have hfinish := Engine.finish_ok h.ready.unfinished hsettle
  rw [houtput] at hfinish
  exact ⟨text, _, hfinish, htext, hs₁.cache⟩

end Underway

end PageFilters
