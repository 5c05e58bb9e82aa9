import PageFilters.Document

namespace PageFilters

namespace Content

theorem andThen_done (c : Content) : c.andThen done = c := by
  induction c with
  | done result => rfl
  | perform op next ih => simp only [andThen, ih]
  | defer producer next _ ih => simp only [andThen, ih]
  | yield next ih => simp only [andThen, ih]
  | invoke call inner next _ ih => simp only [andThen, ih]

end Content

namespace Filter

theorem compose_cons (f : Filter) (fs : List Filter) (c : Content) :
    compose (f :: fs) c = f.wrap (compose fs c) := rfl

theorem deferred_wrap (c : Content) :
    deferred.wrap c = .defer c fun
      | .ok marker => .literal marker.text
      | .error error => .fail error := by
  simp only [deferred, wrap, Content.fill, Content.andThen_done]
  congr 1
  funext r
  cases r <;> rfl

end Filter

namespace State

/-- The state in which a producer taken out of the queue starts. -/
def start (s : State) (p : Pending) (rest : List Pending) : State :=
  { s with
    request.queue.pending := rest
    request.queue.phase := .draining }.record (.started p.ticket)

theorem next?_nil {s : State} (h : s.request.queue.pending = []) : s.next? = none := by
  simp [next?, Queue.next?, h]

theorem next?_cons {s : State} {p : Pending} {rest : List Pending}
    (h : s.request.queue.pending = p :: rest) : s.next? = some (p, s.start p rest) := by
  simp only [next?, Queue.next?, h]
  rfl

theorem substitute_fst (s : State) (p : Pending) (text buffer : String) :
    (s.substitute p text buffer).1 =
      (Text.substituteFirst p.marker.text text buffer).getD buffer := by
  unfold substitute
  split
  next h => rw [h, Option.getD_some]
  next h => rw [h, Option.getD_none]

theorem substitute_snd (s : State) (p : Pending) (text buffer : String) :
    ∃ event, (s.substitute p text buffer).2 = s.record event := by
  unfold substitute
  split
  next => exact ⟨_, rfl⟩
  next => exact ⟨_, rfl⟩

end State

namespace Engine

variable (e : Engine)

theorem runContent_andThen (c : Content) (k : RenderResult → Content) (s : State) :
    e.runContent (c.andThen k) s =
      (e.runContent c s).bind fun (result, s) => e.runContent (k result) s := by
  induction c generalizing s with
  | done result => rfl
  | perform op next ih =>
    simp only [Content.andThen, runContent]
    cases e.perform op s with
    | none => rfl
    | some out => exact ih out.1 out.2
  | defer producer next _ ih =>
    simp only [Content.andThen, runContent]
    exact ih _ _
  | yield next ih => exact ih _ s
  | invoke call inner next _ ih =>
    simp only [Content.andThen, runContent]
    cases e.invoke call inner s with
    | none => rfl
    | some out => exact ih out.1 out.2

theorem runContent_bind_ok {c : Content} {s s' : State} {text : String}
    (k : String → Content) (h : e.runContent c s = some (.ok text, s')) :
    e.runContent (c.bind k) s = e.runContent (k text) s' := by
  simp [Content.bind, runContent_andThen, h]

theorem runContent_simple_ok {apply : String → RenderResult} {c : Content} {s s' : State}
    {text : String} (h : e.runContent c s = some (.ok text, s')) :
    e.runContent ((Filter.simple apply).wrap c) s = some (apply text, s') :=
  e.runContent_bind_ok _ h

theorem runContent_repeatBody_succ {c : Content} {s s' : State} {text : String} (n : Nat)
    (output : String) (h : e.runContent c s = some (.ok text, s')) :
    e.runContent (Content.fill c (Filter.repeatBody (n + 1) output)) s =
      e.runContent (Content.fill c (Filter.repeatBody n (output ++ text))) s' := by
  simp only [Filter.repeatBody, Content.fill, runContent_andThen, h]
  rfl

theorem runContent_cached {key : String} {ttl : Option Nat} {c : Content} {s : State} :
    e.runContent ((Filter.cached key ttl).wrap c) s =
      match s.cacheGet key with
      | (some hit, s) => some (.ok hit, s)
      | (none, s) =>
        (e.runContent c s).bind fun
          | (.ok text, s) => some (.ok text, s.cacheSet key text ttl)
          | (.error error, s) => some (.error error, s) := by
  simp only [Filter.cached, Filter.wrap, Content.fill, runContent, perform]
  cases hg : s.cacheGet key with
  | mk found s' =>
    cases found with
    | some hit => rfl
    | none =>
      simp only [Option.bind_eq_bind, Option.bind_some, Content.fill, runContent_andThen]
      congr 1
      funext out
      obtain ⟨result, s''⟩ := out
      cases result <;> rfl

theorem drain_nil {fuel position : Nat} {buffer : String} {s : State}
    (h : s.request.queue.pending = []) :
    (ofFuel (fuel + 1)).drain position buffer s = some (.ok (), buffer, s.finishDrain) := by
  change (ofFuel fuel).runDrain position buffer s = _
  rw [runDrain, State.next?_nil h]

theorem drain_cons {fuel : Nat} (position : Nat) (buffer : String) {text : String} {p : Pending}
    {rest : List Pending} {s s' : State} (h : s.request.queue.pending = p :: rest)
    (hrun : (ofFuel fuel).runContent p.producer (s.start p rest) = some (.ok text, s')) :
    ∃ event, (ofFuel (fuel + 1)).drain position buffer s =
      (ofFuel fuel).drain (position + 1) (s'.substitute p text buffer).1 (s'.record event) := by
  obtain ⟨event, hrec⟩ := s'.substitute_snd p text buffer
  refine ⟨event, ?_⟩
  change (ofFuel fuel).runDrain position buffer s = _
  simp only [runDrain, State.next?_cons h, hrun, Option.bind_eq_bind, Option.bind_some, hrec]

theorem flushBuffer_ok {e : Engine} {text : String} {s s' : State}
    (h : e.drain 0 s.request.buffer { s with request.buffer := "" } = some (.ok (), text, s')) :
    e.flushBuffer s =
      some (.ok (), { s' with request.output := s'.request.output ++ text }.record .flushed) := by
  simp only [flushBuffer, h, Option.bind_eq_bind, Option.bind_some]
  rfl

theorem settle_done {fuel : Nat} {s s' : State}
    (h : (ofFuel fuel).flushBuffer s = some (.ok (), s')) (hbuffer : s'.request.buffer = "")
    (hq : s'.request.queue.pending = []) : (ofFuel (fuel + 1)).settle s = some (.ok (), s') := by
  have hempty : (s'.request.buffer.isEmpty && s'.request.queue.isEmpty) = true := by
    rw [hbuffer, Queue.isEmpty, hq]
    rfl
  change (ofFuel fuel).runSettle s = _
  simp only [runSettle, h, Option.bind_eq_bind, Option.bind_some, hempty, if_true]
  rfl

theorem settle_again {fuel : Nat} {s s' : State}
    (h : (ofFuel fuel).flushBuffer s = some (.ok (), s')) (hbuffer : s'.request.buffer ≠ "") :
    (ofFuel (fuel + 1)).settle s = (ofFuel fuel).settle s' := by
  have hempty : s'.request.buffer.isEmpty = false := by
    simpa [String.isEmpty_iff] using hbuffer
  change (ofFuel fuel).runSettle s = _
  simp only [runSettle, h, Option.bind_eq_bind, Option.bind_some, hempty, Bool.false_and,
    Bool.false_eq_true, if_false]

theorem finish_ok {e : Engine} {s s' : State} (hs : s.request.finished = false)
    (h : e.settle s = some (.ok (), s')) :
    e.finish s = some (.ok s'.request.output,
      { s' with request.finished := true, request.output := "" }) := by
  simp only [finish, hs, h, Option.bind_eq_bind, Option.bind_some, Bool.false_eq_true, if_false]
  rfl

end Engine

namespace Block

variable {e : Engine} {index : Nat} {b : Block} {fs : List Filter} {words : String}
  {s s' s'' : State}

theorem render_print (hr : b.resolve s.request.filters = .ok fs)
    (hrun : e.runContent (Filter.compose fs (.literal b.text)) s = some (.ok words, s'))
    (hf : b.flush = false) : b.render e index s = some (.ok (), s'.print words) := by
  simp only [render, hr, hrun, hf, Option.bind_eq_bind, Option.bind_some]
  rfl

theorem render_flush (hr : b.resolve s.request.filters = .ok fs)
    (hrun : e.runContent (Filter.compose fs (.literal b.text)) s = some (.ok words, s'))
    (hf : b.flush = true) (hflush : e.flushBuffer (s'.print words) = some (.ok (), s'')) :
    b.render e index s = some (.ok (), s'') := by
  simp only [render, hr, hrun, hf, hflush, Option.bind_eq_bind, Option.bind_some, if_true]
  rfl

theorem renderAll_cons (bs : List Block) (h : b.render e index s = some (.ok (), s')) :
    renderAll e index (b :: bs) s = renderAll e (index + 1) bs s' := by
  simp only [renderAll, h, Option.bind_eq_bind, Option.bind_some]

end Block

theorem Document.render_finish {d : Document} {fuel : Nat} {text : String} {s s' s'' : State}
    (hrun : Block.renderAll (.ofFuel fuel) 0 d.blocks s = some (.ok (), s'))
    (hfinish : (Engine.ofFuel fuel).finish s' = some (.ok text, s'')) :
    d.render fuel s = some (.ok text, s'') := by
  simp only [render, hrun, hfinish, Option.bind_eq_bind, Option.bind_some]
  rfl

end PageFilters
