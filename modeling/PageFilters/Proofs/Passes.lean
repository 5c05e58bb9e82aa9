import PageFilters.Proofs.Fuel
import PageFilters.Proofs.Turns

namespace PageFilters

/-- The text that a step prints. -/
def Op.printed : Op → String
  | print text => text
  | _ => ""

/-- A run of content that neither flushes nor finishes the request, with the text that it prints.
The steps that it takes are those for which an engine needs no fuel. -/
inductive Content.Prints : Content → State → String → RenderResult → State → Prop
  | done {result : RenderResult} {s : State} : Prints (.done result) s "" result s
  | perform {op : Op} {next : op.Answer → Content} {s s₁ s' : State} {a : op.Answer}
      {text : String} {r : RenderResult} (hop : (Engine.ofFuel 0).perform op s = some (a, s₁))
      (h : Prints (next a) s₁ text r s') : Prints (.perform op next) s (op.printed ++ text) r s'
  | defer {producer : Content} {next : Except RenderError Marker → Content} {s s' : State}
      {text : String} {r : RenderResult}
      (h : Prints (next (s.defer producer).1) (s.defer producer).2 text r s') :
      Prints (.defer producer next) s text r s'
  | yield {next : RenderResult → Content} {s s' : State} {text : String} {r : RenderResult}
      (h : Prints (next (.ok "")) s text r s') : Prints (.yield next) s text r s'
  | invoke {call : Call} {inner : Content} {next : RenderResult → Content} {filters : List Filter}
      {s s₁ s₂ s' : State} {text text' : String} {r r' : RenderResult}
      (hcall : s.resolve call = (.ok filters, s₁))
      (hinner : Prints (Filter.compose filters inner) s₁ text r s₂)
      (h : Prints (next r) s₂ text' r' s') :
      Prints (.invoke call inner next) s (text ++ text') r' s'
  | refused {call : Call} {inner : Content} {next : RenderResult → Content} {error : FilterError}
      {s s₁ s' : State} {text : String} {r : RenderResult}
      (hcall : s.resolve call = (.error error, s₁))
      (h : Prints (next (.error (.filter error))) s₁ text r s') :
      Prints (.invoke call inner next) s text r s'

/-- A buffer into which turns have put their texts one after the other, each where its marker stood
first by then, if it did. -/
inductive Filled : String → List Turn → String → Prop
  | nil {buffer : String} : Filled buffer [] buffer
  | cons {buffer next text : String} {found : Bool} {t : Turn} {turns : List Turn}
      (h : Text.Replaced t.entry.marker.text t.text buffer (next, found))
      (hrest : Filled next turns text) : Filled buffer (t :: turns) text

/-- The producers that were registered between two states. -/
structure State.Admits (s : State) (fresh : List Pending) (s' : State) : Prop where
  registered : s'.request.queue.registered = s.request.queue.registered + fresh.length
  tickets : fresh.map Pending.ticket =
    List.range' (s.request.queue.registered + 1) fresh.length

/-- A part of a run that takes producers out of the queue, prints a text and puts those that it
registers behind all others. -/
structure State.Proceeds (s : State) (taken : List Pending) (printed : String) (s' : State) :
    Prop where
  leads : s.Leads s'
  buffer : s'.request.buffer = s.request.buffer ++ printed
  output : s'.request.output = s.request.output
  finished : s'.request.finished = s.request.finished
  queue : ∃ fresh, s.Admits fresh s' ∧
    s.request.queue.pending ++ fresh = taken ++ s'.request.queue.pending

/-- The first turns of a drain into a buffer. No producer fails in them, flushes or finishes the
request; together they print a text. -/
inductive Pass : State → String → List Turn → String → State → Prop
  | nil {s : State} {buffer : String} : Pass s buffer [] "" s
  | cons {s s₁ s' : State} {p : Pending} {rest : List Pending}
      {text buffer words printed : String} {turns : List Turn}
      (hq : s.request.queue.pending = p :: rest)
      (hrun : p.producer.Prints (s.start p rest) words (.ok text) s₁)
      (h : Pass (s₁.substitute p text buffer).2 (s₁.substitute p text buffer).1 turns printed s') :
      Pass s buffer (⟨p, text, s.start p rest, s₁⟩ :: turns) (words ++ printed) s'

/-- A drain into a buffer that breaks off: after some turns the producer of an entry fails. The text
is what was printed up to then, and the state the one in which the producer failed. -/
inductive Breaks (s : State) (buffer : String) :
    List Turn → Pending → RenderError → String → State → Prop
  | intro {s₁ s' : State} {p : Pending} {rest : List Pending} {words printed : String}
      {error : RenderError} {turns : List Turn} (hpass : Pass s buffer turns printed s₁)
      (hq : s₁.request.queue.pending = p :: rest)
      (hrun : p.producer.Prints (s₁.start p rest) words (.error error) s') :
      Breaks s buffer turns p error (printed ++ words) s'

/-- The state behind a drain that left nothing waiting, when its buffer has become output. -/
def State.emit (s : State) (text : String) : State :=
  { s.finishDrain with request.output := s.request.output ++ text }.record .flushed

namespace Engine

/-- Fuel that is enough remains so with a level more. -/
theorem enough_succ {P : Nat → Prop} (h : ∃ n, ∀ fuel ≥ n, P (fuel + 1)) :
    ∃ n, ∀ fuel ≥ n, P fuel := by
  obtain ⟨n, hn⟩ := h
  refine ⟨n + 1, fun fuel hfuel => ?_⟩
  obtain ⟨k, rfl⟩ := Nat.exists_eq_add_of_le' (Nat.le_of_add_left_le hfuel)
  exact hn k (by omega)

/-- A step that drains nothing only prints, as far as the request goes. -/
theorem perform_request {op : Op} {s s' : State} {a : op.Answer}
    (h : (ofFuel 0).perform op s = some (a, s')) :
    s'.request = { s.request with buffer := s.request.buffer ++ op.printed } := by
  have hsilent : { s.request with buffer := s.request.buffer ++ "" } = s.request := by
    rw [String.append_empty]
  cases op with
  | print text =>
    cases h
    rfl
  | cacheGet key =>
    have hs : s' = (s.cacheGet key).2 := (congrArg Prod.snd (Option.some.inj h)).symm
    rw [hs]
    exact (s.cacheGet_request key).trans hsilent.symm
  | cacheSet key value ttl =>
    cases h
    exact (s.cacheSet_request key value ttl).trans hsilent.symm
  | lookup call =>
    cases h
    exact (State.resolve_keeps State.request (fun _ _ => rfl) s call).trans hsilent.symm
  | flushBuffer => cases h
  | flushDeferred buffer => cases h
  | finish =>
    obtain ⟨_, _, rfl⟩ | ⟨hf, _⟩ := (lawful_ofFuel 0).finish h
    · exact hsilent.symm
    · change (ofFuel 0).finish s = some (a, s') at h
      simp only [finish, hf, Bool.false_eq_true, if_false] at h
      cases h
  | _ =>
    cases h
    exact hsilent.symm

end Engine

namespace State

variable {s s' s'' : State}

theorem Admits.refl (h : s'.request.queue.registered = s.request.queue.registered) :
    s.Admits [] s' :=
  ⟨h, rfl⟩

theorem Admits.trans {fresh fresh' : List Pending} (h : s.Admits fresh s')
    (h' : s'.Admits fresh' s'') : s.Admits (fresh ++ fresh') s'' where
  registered := by rw [h'.registered, h.registered, List.length_append, Nat.add_assoc]
  tickets := by
    rw [List.map_append, h.tickets, h'.tickets, h.registered, Nat.add_right_comm,
      List.range'_append_1, List.length_append]

namespace Proceeds

theorem trans {taken taken' : List Pending} {printed printed' : String}
    (h : s.Proceeds taken printed s') (h' : s'.Proceeds taken' printed' s'') :
    s.Proceeds (taken ++ taken') (printed ++ printed') s'' where
  leads := h.leads.trans h'.leads
  buffer := by rw [h'.buffer, h.buffer, String.append_assoc]
  output := h'.output.trans h.output
  finished := h'.finished.trans h.finished
  queue := by
    obtain ⟨fresh, hadmits, hq⟩ := h.queue
    obtain ⟨fresh', hadmits', hq'⟩ := h'.queue
    refine ⟨fresh ++ fresh', hadmits.trans hadmits', ?_⟩
    rw [← List.append_assoc, hq, List.append_assoc, hq', List.append_assoc]

theorem silent_trans {taken : List Pending} {printed : String} (h : s.Proceeds [] "" s')
    (h' : s'.Proceeds taken printed s'') : s.Proceeds taken printed s'' := by
  simpa using h.trans h'

theorem of_request (hleads : s.Leads s') (hr : s'.request = s.request) : s.Proceeds [] "" s' where
  leads := hleads
  buffer := by rw [hr, String.append_empty]
  output := by rw [hr]
  finished := by rw [hr]
  queue := ⟨[], .refl (by rw [hr]), by rw [hr, List.append_nil, List.nil_append]⟩

theorem refl (s : State) : s.Proceeds [] "" s := of_request .refl rfl

theorem defer (s : State) (producer : Content) : s.Proceeds [] "" (s.defer producer).2 := by
  have hchange := Change.defer (s := s) producer
  obtain ⟨_, hdefer⟩ | ⟨_, marker, markers, _, hdefer⟩ := s.defer_cases producer
  · rw [hdefer]
    exact .refl s
  · rw [hdefer] at hchange ⊢
    exact ⟨.single hchange, String.append_empty.symm, rfl, rfl, [_], ⟨rfl, rfl⟩, rfl⟩

theorem resolve (s : State) (call : Call) : s.Proceeds [] "" (s.resolve call).2 :=
  .of_request (s.evolves_resolve call).leads (resolve_keeps request (fun _ _ => rfl) s call)

theorem start {p : Pending} {rest : List Pending} (h : s.request.queue.pending = p :: rest) :
    s.Proceeds [p] "" (s.start p rest) where
  leads := .single (.take (next?_cons h))
  buffer := String.append_empty.symm
  output := rfl
  finished := rfl
  queue := ⟨[], .refl rfl, by rw [List.append_nil, h]; rfl⟩

theorem substitute (s : State) (p : Pending) (text buffer : String) :
    s.Proceeds [] "" (s.substitute p text buffer).2 := by
  obtain ⟨event, hrecord⟩ := s.substitute_snd p text buffer
  exact .of_request (.single (.substitute p text buffer)) (by rw [hrecord]; rfl)

theorem perform {op : Op} {a : op.Answer}
    (h : (Engine.ofFuel 0).perform op s = some (a, s')) : s.Proceeds [] op.printed s' where
  leads := ((Engine.lawful_ofFuel 0).perform h).leads
  buffer := by rw [Engine.perform_request h]
  output := by rw [Engine.perform_request h]
  finished := by rw [Engine.perform_request h]
  queue := ⟨[], .refl (by rw [Engine.perform_request h]), by
    rw [Engine.perform_request h, List.append_nil, List.nil_append]⟩

end Proceeds

end State

open State

namespace Content.Prints

variable {c : Content} {s s' : State} {text : String} {r : RenderResult}

theorem proceeds (h : c.Prints s text r s') : s.Proceeds [] text s' := by
  induction h with
  | done => exact .refl _
  | perform hop _ ih => exact (Proceeds.perform hop).trans ih
  | defer _ ih => exact (Proceeds.defer _ _).silent_trans ih
  | yield _ ih => exact ih
  | @invoke call _ _ _ s _ _ _ _ _ _ _ hcall _ _ ihinner ih =>
    have hresolve := Proceeds.resolve s call
    rw [hcall] at hresolve
    exact (hresolve.silent_trans ihinner).trans ih
  | @refused call _ _ _ s _ _ _ _ hcall _ ih =>
    have hresolve := Proceeds.resolve s call
    rw [hcall] at hresolve
    exact hresolve.silent_trans ih

/-- With enough fuel the engine takes such a run. -/
theorem run (h : c.Prints s text r s') :
    ∃ n, ∀ fuel ≥ n, (Engine.ofFuel fuel).runContent c s = some (r, s') := by
  induction h with
  | done => exact ⟨0, fun _ _ => rfl⟩
  | @perform op next s s₁ s' a text r hop _ ih =>
    obtain ⟨n, hn⟩ := ih
    refine ⟨n, fun fuel hfuel => ?_⟩
    have hperform := (Engine.extends_of_le fuel.zero_le).perform op s _ hop
    simp only [Engine.runContent, hperform, Option.bind_eq_bind, Option.bind_some, hn fuel hfuel]
  | defer _ ih => exact ih
  | yield _ ih => exact ih
  | @invoke call inner _ filters s s₁ s₂ s' text text' r r' hcall _ _ ihinner ih =>
    obtain ⟨n, hn⟩ := ihinner
    obtain ⟨n', hn'⟩ := ih
    -- The filters of the call take a level of fuel.
    refine Engine.enough_succ ⟨max n n', fun fuel hfuel => ?_⟩
    have hinvoke : (Engine.ofFuel (fuel + 1)).invoke call inner s = some (r, s₂) := by
      simp only [Engine.invoke, hcall]
      exact hn fuel (by omega)
    simp only [Engine.runContent, hinvoke, Option.bind_eq_bind, Option.bind_some]
    exact hn' _ (by omega)
  | refused hcall _ ih =>
    obtain ⟨n, hn⟩ := ih
    refine ⟨n, fun fuel hfuel => ?_⟩
    simp only [Engine.runContent, Engine.invoke, hcall, Option.bind_eq_bind, Option.bind_some]
    exact hn fuel hfuel

end Content.Prints

/-- What the engine makes of a buffer is what comes of it. -/
theorem Text.Replaced.substitute_fst {p : Pending} {words buffer next : String} {found : Bool}
    (h : Replaced p.marker.text words buffer (next, found)) (s : State) :
    (s.substitute p words buffer).1 = next := by
  rw [State.substitute_fst, ← Text.substitute_fst, ← replaced_iff.mp h]

theorem filled_iff {buffer text : String} {turns : List Turn} :
    Filled buffer turns text ↔ text = turns.foldl Turn.fill buffer := by
  constructor
  · intro h
    induction h with
    | nil => rfl
    | cons h _ ih =>
      rw [ih, List.foldl_cons, Turn.fill, ← Text.substitute_fst, ← Text.replaced_iff.mp h]
  · rintro rfl
    induction turns generalizing buffer with
    | nil => exact .nil
    | cons t turns ih =>
      have hreplaced := Text.replaced_substitute t.entry.marker.text t.text buffer
      rw [List.foldl_cons, Turn.fill, ← Text.substitute_fst]
      exact .cons hreplaced ih

namespace Pass

variable {s s' : State} {buffer printed text : String} {turns : List Turn}

theorem proceeds (h : Pass s buffer turns printed s') :
    s.Proceeds (turns.map Turn.entry) printed s' := by
  induction h with
  | nil => exact .refl _
  | @cons s s₁ s' p rest text buffer words printed turns hq hrun _ ih =>
    have hturn : s.Proceeds [p] words s₁ := by
      simpa using (Proceeds.start hq).trans hrun.proceeds
    exact hturn.trans ((Proceeds.substitute s₁ p text buffer).silent_trans ih)

/-- A drain answers what the drain behind the turns does. -/
theorem drain (h : Pass s buffer turns printed s') (hfilled : Filled buffer turns text)
    {position : Nat} {out : Except RenderError Unit × String × State}
    (hlast : ∃ n, ∀ fuel ≥ n,
      (Engine.ofFuel fuel).drain (position + turns.length) text s' = some out) :
    ∃ n, ∀ fuel ≥ n, (Engine.ofFuel fuel).drain position buffer s = some out := by
  induction h generalizing position with
  | nil =>
    cases hfilled
    exact hlast
  | @cons s s₁ s' p rest words buffer _ _ turns hq hrun _ ih =>
    obtain ⟨n, hn⟩ := hrun.run
    cases hfilled with
    | @cons _ next _ _ _ _ hreplaced hrest =>
      -- The drain behind all turns is the one behind those that follow the first.
      rw [List.length_cons, Nat.add_comm turns.length, ← Nat.add_assoc] at hlast
      obtain ⟨n', hn'⟩ := ih (by rwa [hreplaced.substitute_fst]) hlast
      refine Engine.enough_succ ⟨max n n', fun fuel hfuel => ?_⟩
      change (Engine.ofFuel fuel).runDrain position buffer s = _
      simp only [Engine.runDrain, State.next?_cons hq, hn fuel (by omega), Option.bind_eq_bind,
        Option.bind_some]
      exact hn' fuel (by omega)

theorem flush (h : Pass { s with request.buffer := "" } s.request.buffer turns printed s')
    (hfilled : Filled s.request.buffer turns text) (hq : s'.request.queue.pending = []) :
    ∃ n, ∀ fuel ≥ n, (Engine.ofFuel fuel).flushBuffer s = some (.ok (), s'.emit text) := by
  obtain ⟨n, hn⟩ : ∃ n, ∀ fuel ≥ n, (Engine.ofFuel fuel).drain 0 s.request.buffer
      { s with request.buffer := "" } = some (.ok (), text, s'.finishDrain) :=
    h.drain hfilled (Engine.enough_succ ⟨0, fun _ _ => Engine.drain_nil hq⟩)
  exact ⟨n, fun fuel hfuel => Engine.flushBuffer_ok (hn fuel hfuel)⟩

/-- A flush leaves what was printed in it, and adds to the output. -/
theorem emitted (text : String) (h : Pass { s with request.buffer := "" } buffer turns printed s') :
    (s'.emit text).request.buffer = printed ∧
      (s'.emit text).request.output = s.request.output ++ text ∧
      (s'.emit text).request.finished = s.request.finished := by
  refine ⟨h.proceeds.buffer.trans String.empty_append, ?_, h.proceeds.finished⟩
  change s'.request.output ++ text = _
  rw [h.proceeds.output]

end Pass

namespace Breaks

variable {s s' : State} {buffer printed text : String} {turns : List Turn} {p : Pending}
  {error : RenderError}

theorem proceeds (h : Breaks s buffer turns p error printed s') :
    s.Proceeds (turns.map Turn.entry ++ [p]) printed s' := by
  obtain ⟨hpass, hq, hrun⟩ := h
  refine hpass.proceeds.trans ?_
  simpa using (Proceeds.start hq).trans hrun.proceeds

theorem drain (h : Breaks s buffer turns p error printed s') (hfilled : Filled buffer turns text) :
    ∃ n, ∀ fuel ≥ n, (Engine.ofFuel fuel).drain 0 buffer s =
      some (.error (.deferredProducer p.marker turns.length error), text, s'.abandon p.ticket) := by
  obtain ⟨hpass, hq, hrun⟩ := h
  obtain ⟨n, hn⟩ := hrun.run
  refine hpass.drain hfilled (Engine.enough_succ ⟨n, fun fuel hfuel => ?_⟩)
  change (Engine.ofFuel fuel).runDrain _ _ _ = _
  simp only [Engine.runDrain, State.next?_cons hq, hn fuel hfuel, Option.bind_eq_bind,
    Option.bind_some, Nat.zero_add]
  rfl

theorem flush
    (h : Breaks { s with request.buffer := "" } s.request.buffer turns p error printed s')
    (hfilled : Filled s.request.buffer turns text) :
    ∃ n, ∀ fuel ≥ n, (Engine.ofFuel fuel).flushBuffer s =
      some (.error (.deferredProducer p.marker turns.length error),
        { s'.abandon p.ticket with request.buffer := text ++ printed }) := by
  have hbuffer : s'.request.buffer = printed := by
    rw [h.proceeds.buffer, String.empty_append]
  obtain ⟨n, hn⟩ := h.drain hfilled
  refine ⟨n, fun fuel hfuel => ?_⟩
  simp only [Engine.flushBuffer, hn fuel hfuel, Option.bind_eq_bind, Option.bind_some]
  rw [← hbuffer]
  rfl

end Breaks

end PageFilters
