import PageFilters.Proofs.Quiet

namespace PageFilters

/-- Flushes one after the other, the first of which drains into the given buffer and each further
one into the text that was printed in the one before. No producer fails in them, and none of them
prints nothing. They emit the texts of the list; the last state and text are those with which the
next flush begins. -/
inductive Generations : State → String → List String → State → String → Prop
  | nil {s : State} {buffer : String} : Generations s buffer [] s buffer
  | cons {s s₁ s' : State} {buffer text printed last : String} {turns : List Turn}
      {texts : List String} (hpass : Pass { s with request.buffer := "" } buffer turns printed s₁)
      (hq : s₁.request.queue.pending = []) (hfilled : Filled buffer turns text)
      (hprinted : printed ≠ "") (h : Generations (s₁.emit text) printed texts s' last) :
      Generations s buffer (text :: texts) s' last

/-- What finishing leaves when it takes the output. -/
structure Delivers (s : State) (texts : List String) (r : RenderResult) (s' : State) : Prop where
  result : r = .ok (s.request.output ++ String.join texts)
  buffer : s'.request.buffer = ""
  output : s'.request.output = ""
  clear : s'.request.queue.Clear
  finished : s'.request.finished = true

/-- What finishing leaves when a flush has failed. -/
structure Withholds (s : State) (texts : List String) (buffer : String) (error : RenderError)
    (r : RenderResult) (s' : State) : Prop where
  result : r = .error error
  buffer : s'.request.buffer = buffer
  output : s'.request.output = s.request.output ++ String.join texts
  clear : s'.request.queue.Clear
  finished : s'.request.finished = true

variable {s s' : State}

theorem Pass.printed_eq_empty {buffer printed : String} {turns : List Turn}
    (h : Pass s buffer turns printed s') (hq : s.request.queue.pending = []) : printed = "" := by
  cases h with
  | nil => rfl
  | cons hcons =>
    rw [hq] at hcons
    cases hcons

namespace Generations

variable {buffer last : String} {texts : List String}

theorem kept (h : Generations s buffer texts s' last) (hbuffer : s.request.buffer = buffer) :
    s'.request.buffer = last ∧ s'.request.output = s.request.output ++ String.join texts ∧
      s'.request.finished = s.request.finished := by
  induction h with
  | nil => exact ⟨hbuffer, String.append_empty.symm, rfl⟩
  | cons hpass _ _ _ _ ih =>
    obtain ⟨hnext, houtput, hfinished⟩ := hpass.emitted _
    obtain ⟨hlast, houtput', hfinished'⟩ := ih hnext
    refine ⟨hlast, ?_, hfinished'.trans hfinished⟩
    rw [houtput', houtput, String.join_cons, String.append_assoc]

/-- Settling answers what it does behind the flushes. -/
theorem settle (h : Generations s buffer texts s' last) (hbuffer : s.request.buffer = buffer)
    {out : Except RenderError Unit × State}
    (hlast : ∃ n, ∀ fuel ≥ n, (Engine.ofFuel fuel).settle s' = some out) :
    ∃ n, ∀ fuel ≥ n, (Engine.ofFuel fuel).settle s = some out := by
  induction h with
  | nil => exact hlast
  | @cons s s₁ s' buffer text printed last turns texts hpass hq hfilled hprinted _ ih =>
    subst hbuffer
    obtain ⟨hnext, _⟩ := hpass.emitted text
    obtain ⟨n, hn⟩ := hpass.flush hfilled hq
    obtain ⟨n', hn'⟩ := ih hnext hlast
    refine Engine.enough_succ ⟨max n n', fun fuel hfuel => ?_⟩
    rw [Engine.settle_again (hn fuel (by omega)) (hnext.trans_ne hprinted), hn' fuel (by omega)]

/-- A flush leaves nothing waiting, so the next one prints nothing. -/
theorem length_le_one (h : Generations s buffer texts s' last) : texts.length ≤ 1 := by
  cases h with
  | nil => exact Nat.zero_le 1
  | cons _ hq _ _ h =>
    cases h with
    | nil => exact Nat.le_refl 1
    | cons hpass _ _ hprinted _ => exact absurd (hpass.printed_eq_empty hq) hprinted

end Generations

theorem Pass.settle {turns : List Turn} {text : String}
    (h : Pass { s with request.buffer := "" } s.request.buffer turns "" s')
    (hfilled : Filled s.request.buffer turns text) (hq : s'.request.queue.pending = []) :
    ∃ n, ∀ fuel ≥ n, (Engine.ofFuel fuel).settle s = some (.ok (), s'.emit text) := by
  obtain ⟨n, hn⟩ := h.flush hfilled hq
  refine Engine.enough_succ ⟨n, fun fuel hfuel => ?_⟩
  exact Engine.settle_done (hn fuel hfuel) (h.emitted _).1 hq

theorem Breaks.settle {turns : List Turn} {p : Pending} {error : RenderError}
    {printed text : String}
    (h : Breaks { s with request.buffer := "" } s.request.buffer turns p error printed s')
    (hfilled : Filled s.request.buffer turns text) :
    ∃ n, ∀ fuel ≥ n, (Engine.ofFuel fuel).settle s =
      some (.error (.deferredProducer p.marker turns.length error),
        { s'.abandon p.ticket with request.buffer := text ++ printed }) := by
  obtain ⟨n, hn⟩ := h.flush hfilled
  refine Engine.enough_succ ⟨n, fun fuel hfuel => ?_⟩
  change (Engine.ofFuel fuel).runSettle s = _
  simp only [Engine.runSettle, hn fuel hfuel, Option.bind_eq_bind, Option.bind_some]
  rfl

namespace Engine

theorem finish_failed {e : Engine} {s s' : State} {error : RenderError}
    (hs : s.request.finished = false) (h : e.settle s = some (.error error, s')) :
    e.finish s = some (.error error, { s' with request.finished := true }) := by
  simp only [finish, hs, h, Option.bind_eq_bind, Option.bind_some, Bool.false_eq_true, if_false]
  rfl

end Engine

namespace Generations

variable {s₁ s₂ : State} {texts : List String} {buffer text : String} {turns : List Turn}

/-- A last flush in which nothing is printed. -/
theorem delivers (h : Generations s s.request.buffer texts s₁ buffer)
    (hs : s.request.finished = false)
    (hpass : Pass { s₁ with request.buffer := "" } buffer turns "" s₂)
    (hq : s₂.request.queue.pending = []) (hfilled : Filled buffer turns text) :
    ∃ r s', (∃ n, ∀ fuel ≥ n, (Engine.ofFuel fuel).finish s = some (r, s')) ∧
      Delivers s (texts ++ [text]) r s' := by
  obtain ⟨rfl, houtput, _⟩ := h.kept rfl
  obtain ⟨hbuffer, houtput', _⟩ := hpass.emitted text
  obtain ⟨n, hn⟩ := h.settle rfl (hpass.settle hfilled hq)
  refine ⟨_, _, ⟨n, fun fuel hfuel => Engine.finish_ok hs (hn fuel hfuel)⟩, ?_, hbuffer, rfl,
    ⟨hq, rfl⟩, rfl⟩
  rw [houtput', houtput, String.join_append, String.append_assoc]
  rfl

/-- A last flush that breaks off. -/
theorem withholds {p : Pending} {error : RenderError} {printed : String}
    (h : Generations s s.request.buffer texts s₁ buffer) (hs : s.request.finished = false)
    (hbreaks : Breaks { s₁ with request.buffer := "" } buffer turns p error printed s₂)
    (hfilled : Filled buffer turns text) :
    ∃ r s', (∃ n, ∀ fuel ≥ n, (Engine.ofFuel fuel).finish s = some (r, s')) ∧
      Withholds s texts (text ++ printed) (.deferredProducer p.marker turns.length error) r s' := by
  obtain ⟨rfl, houtput, _⟩ := h.kept rfl
  obtain ⟨n, hn⟩ := h.settle rfl (hbreaks.settle hfilled)
  exact ⟨_, _, ⟨n, fun fuel hfuel => Engine.finish_failed hs (hn fuel hfuel)⟩, rfl, rfl,
    hbreaks.proceeds.output.trans houtput, ⟨rfl, rfl⟩, rfl⟩

end Generations

/-- Where no producer flushes or finishes the request, a call of `finish` that ends has gone through
flushes until one printed nothing, or until one broke off. -/
theorem State.Quiet.finish {fuel : Nat} {r : RenderResult} (hs : s.Quiet)
    (hf : s.request.finished = false) (h : (Engine.ofFuel fuel).finish s = some (r, s')) :
    ∃ texts buffer s₁, Generations s s.request.buffer texts s₁ buffer ∧
      ((∃ turns s₂, Pass { s₁ with request.buffer := "" } buffer turns "" s₂ ∧
        s₂.request.queue.pending = []) ∨
      ∃ turns p error printed s₂,
        Breaks { s₁ with request.buffer := "" } buffer turns p error printed s₂) := by
  have hflush : ∃ result s₁, ∃ fuel, (Engine.ofFuel fuel).flushBuffer s = some (result, s₁) := by
    simp only [Engine.finish, hf, Bool.false_eq_true, if_false] at h
    obtain ⟨⟨result, s₁⟩, hsettle, _⟩ := Option.bind_eq_some_iff.mp h
    cases fuel with
    | zero => cases hsettle
    | succ fuel =>
      obtain ⟨⟨result, s₁⟩, hflush, _⟩ := Option.bind_eq_some_iff.mp hsettle
      exact ⟨result, s₁, fuel, hflush⟩
  obtain ⟨result, _, fuel, hflush⟩ := hflush
  rcases hs.flush hflush with
    ⟨_, turns, printed, s₁, hpass, hq⟩ | ⟨turns, p, error, printed, s₁, _, hbreaks⟩
  · by_cases hprinted : printed = ""
    · subst hprinted
      exact ⟨_, _, _, .nil, .inl ⟨turns, s₁, hpass, hq⟩⟩
    · exact ⟨_, _, _, .cons hpass hq (filled_iff.mpr rfl) hprinted .nil, .inl ⟨_, _, .nil, hq⟩⟩
  · exact ⟨_, _, _, .nil, .inr ⟨turns, p, error, printed, s₁, hbreaks⟩⟩

/-- Finishing emits what was printed flush by flush. It ends with a flush in which nothing is
printed, and takes the output, or with one that breaks off, and leaves the output where it is. Where
no producer flushes or finishes the request, finishing ends in one of these ways, if it ends. -/
theorem finish_generations {s : State} (hs : s.request.finished = false) :
    (∀ texts s₁ buffer, Generations s s.request.buffer texts s₁ buffer →
      (∀ turns text s₂, Pass { s₁ with request.buffer := "" } buffer turns "" s₂ →
        s₂.request.queue.pending = [] → Filled buffer turns text →
        ∃ r s', (∃ n, ∀ fuel ≥ n, (Engine.ofFuel fuel).finish s = some (r, s')) ∧
          Delivers s (texts ++ [text]) r s') ∧
      ∀ turns p error printed text s₂,
        Breaks { s₁ with request.buffer := "" } buffer turns p error printed s₂ →
        Filled buffer turns text →
        ∃ r s', (∃ n, ∀ fuel ≥ n, (Engine.ofFuel fuel).finish s = some (r, s')) ∧
          Withholds s texts (text ++ printed) (.deferredProducer p.marker turns.length error)
            r s') ∧
    (s.Quiet → ∀ fuel r s', (Engine.ofFuel fuel).finish s = some (r, s') →
      ∃ texts s₁ buffer turns text, Generations s s.request.buffer texts s₁ buffer ∧
        Filled buffer turns text ∧
        ((∃ s₂, Pass { s₁ with request.buffer := "" } buffer turns "" s₂ ∧
          s₂.request.queue.pending = [] ∧ Delivers s (texts ++ [text]) r s') ∨
        ∃ p error printed s₂,
          Breaks { s₁ with request.buffer := "" } buffer turns p error printed s₂ ∧
          Withholds s texts (text ++ printed) (.deferredProducer p.marker turns.length error)
            r s')) := by
  refine ⟨fun texts s₁ buffer h => ⟨fun turns text s₂ hpass hq hfilled =>
    h.delivers hs hpass hq hfilled, fun turns p error printed text s₂ hbreaks hfilled =>
    h.withholds hs hbreaks hfilled⟩, fun quiet fuel r s' hfinish => ?_⟩
  obtain ⟨texts, buffer, s₁, h, ⟨turns, s₂, hpass, hq⟩ | ⟨turns, p, error, printed, s₂, hbreaks⟩⟩ :=
    quiet.finish hs hfinish
  · have hfilled := filled_iff.mpr (Eq.refl (turns.foldl Turn.fill buffer))
    obtain ⟨_, _, ⟨n, hn⟩, hdelivers⟩ := h.delivers hs hpass hq hfilled
    cases Engine.finish_unique hfinish (hn n (Nat.le_refl n))
    exact ⟨_, _, _, _, _, h, hfilled, .inl ⟨s₂, hpass, hq, hdelivers⟩⟩
  · have hfilled := filled_iff.mpr (Eq.refl (turns.foldl Turn.fill buffer))
    obtain ⟨_, _, ⟨n, hn⟩, hwithholds⟩ := h.withholds hs hbreaks hfilled
    cases Engine.finish_unique hfinish (hn n (Nat.le_refl n))
    exact ⟨_, _, _, _, _, h, hfilled, .inr ⟨p, error, printed, s₂, hbreaks, hwithholds⟩⟩

/-- A producer that prints while the request is being finished, and the same one with another behind
it that fails. -/
theorem finish_generations_printed :
    (∃ s s', s.request.output = "head " ∧
      s.request.queue.pending.map Pending.marker = [.numbered "n" 1] ∧
      s.request.buffer = "<" ++ (Marker.numbered "n" 1).text ++ ">" ∧
      (∃ n, ∀ fuel ≥ n, (Engine.ofFuel fuel).finish s = some (.ok "head <A>tail", s')) ∧
      s'.request.buffer = "" ∧ s'.request.output = "") ∧
    ∃ s s', s.request.output = "head " ∧
      s.request.queue.pending.map Pending.marker = [.numbered "n" 1, .numbered "n" 2] ∧
      s.request.buffer = "<" ++ (Marker.numbered "n" 1).text ++ ">" ∧
      (∃ n, ∀ fuel ≥ n, (Engine.ofFuel fuel).finish s =
        some (.error (.deferredProducer (.numbered "n" 2) 1 (.component "down")), s')) ∧
      s'.request.buffer = "<A>tail" ∧ s'.request.output = "head " := by
  constructor
  · obtain ⟨s, s₁, texts, buffer, hs, houtput, hmarkers, hbuffer, h, hq, htext⟩ :
        ∃ s s₁ texts buffer, s.request.finished = false ∧ s.request.output = "head " ∧
        s.request.queue.pending.map Pending.marker = [.numbered "n" 1] ∧
        s.request.buffer = "<" ++ (Marker.numbered "n" 1).text ++ ">" ∧
        Generations s s.request.buffer texts s₁ buffer ∧ s₁.request.queue.pending = [] ∧
        "head " ++ String.join (texts ++ [buffer]) = "head <A>tail" :=
      ⟨(State.defer { request := { filters := {}, markers := .distinct "n" 0, output := "head " } }
        (.perform (.print "tail") fun _ => .literal "A")).2.print
          ("<" ++ (Marker.numbered "n" 1).text ++ ">"), _, _, _, rfl, rfl, rfl, rfl,
        .cons (.cons rfl (.perform rfl .done) .nil) (by rw [State.substitute_queue]; rfl)
          (filled_iff.mpr rfl) (by decide) .nil, rfl, by decide⟩
    obtain ⟨r, s', hn, hdelivers⟩ := ((finish_generations hs).1 _ _ _ h).1 [] _ _ .nil hq .nil
    rw [hdelivers.result, houtput, htext] at hn
    exact ⟨s, s', houtput, hmarkers, hbuffer, hn, hdelivers.buffer, hdelivers.output⟩
  · obtain ⟨s, s₁, turns, p, printed, hs, houtput, hmarkers, hbuffer, h, hp, hlength, htext⟩ :
        ∃ s s₁ turns p printed, s.request.finished = false ∧ s.request.output = "head " ∧
        s.request.queue.pending.map Pending.marker = [.numbered "n" 1, .numbered "n" 2] ∧
        s.request.buffer = "<" ++ (Marker.numbered "n" 1).text ++ ">" ∧
        Breaks { s with request.buffer := "" } s.request.buffer turns p (.component "down") printed
          s₁ ∧ p.marker = .numbered "n" 2 ∧ turns.length = 1 ∧
        turns.foldl Turn.fill s.request.buffer ++ printed = "<A>tail" :=
      ⟨(State.defer (State.defer
        { request := { filters := {}, markers := .distinct "n" 0, output := "head " } }
        (.perform (.print "tail") fun _ => .literal "A")).2 (.fail (.component "down"))).2.print
          ("<" ++ (Marker.numbered "n" 1).text ++ ">"), _, _, _, _, rfl, rfl, rfl, rfl,
        .intro (.cons rfl (.perform rfl .done) .nil) (by rw [State.substitute_queue]; rfl) .done,
        rfl, rfl, by decide⟩
    obtain ⟨r, s', hn, hwithholds⟩ := ((finish_generations hs).1 _ _ _ .nil).2 turns p _ printed _
      s₁ h (filled_iff.mpr rfl)
    rw [hwithholds.result, hp, hlength] at hn
    have houtput' := hwithholds.output
    rw [String.join_nil, String.append_empty, houtput] at houtput'
    exact ⟨s, s', houtput, hmarkers, hbuffer, hn, hwithholds.buffer.trans htext, houtput'⟩

end PageFilters
