import PageFilters.Proofs.Changes

namespace PageFilters

/-- A call on a request. -/
inductive Action where
  | print (text : String)
  | defer (producer : Content)
  | render (filters : List Filter) (content : Content)
  | filter (filters : List Filter) (content : Content)
  | pipe (list text : String)
  | flushBuffer
  | flushDeferred (buffer : String)
  | finish

namespace Action

/-- Whether the call runs what waits. -/
def flushes : Action → Bool
  | flushBuffer => true
  | flushDeferred _ => true
  | finish => true
  | _ => false

/-- Whether a finished request rejects the call. -/
def isRejected : Action → Bool
  | defer _ => true
  | finish => true
  | _ => false

end Action

namespace Engine

/-- Prints the text of a result. -/
def printResult : RenderResult × State → RenderResult × State
  | (.ok text, s) => (.ok "", s.print text)
  | (.error error, s) => (.error error, s)

/-- Makes a call on the request. A call that returns no text answers the empty one. -/
def act (e : Engine) : Action → State → Option (RenderResult × State)
  | .print text, s => some (.ok "", s.print text)
  | .defer producer, s =>
    let (marker, s) := s.defer producer
    some (marker.map Marker.text, s)
  | .render filters content, s => e.runContent (Filter.compose filters content) s
  | .filter filters content, s =>
    (e.runContent (Filter.compose filters content) s).map printResult
  | .pipe list text, s => (e.invoke (.piped list) (.literal text) s).map printResult
  | .flushBuffer, s => do
    let (result, s) ← e.flushBuffer s
    return (result.map fun () => "", s)
  | .flushDeferred buffer, s => e.flushDeferred buffer s
  | .finish, s => e.finish s

/-- A drain that stops where it would end with something still waiting. -/
def assertDrain (e : Engine) (position : Nat) (buffer : String) (s : State) :
    Option (Except RenderError Unit × String × State) :=
  if s.next?.isNone && !s.request.queue.isEmpty then none else e.runDrain position buffer s

/-- The engine with an assertion at the end of each drain. -/
def asserting : Nat → Engine
  | 0 => ofFuel 0
  | fuel + 1 =>
    { render := fun content s => (asserting fuel).runContent content s
      drain := fun position buffer s => (asserting fuel).assertDrain position buffer s
      settle := fun s => (asserting fuel).runSettle s }

end Engine

/-- States of a new request between the calls made on it. -/
inductive Reached (filters : Registry) (markers : MarkerSource) (cache : Cache) : State → Prop
  | new : Reached filters markers cache { request := { filters, markers }, cache }
  | act {s s' : State} {a : Action} {r : RenderResult} (fuel : Nat)
      (h : Reached filters markers cache s)
      (hact : (Engine.ofFuel fuel).act a s = some (r, s')) : Reached filters markers cache s'

/-- What holds of the queue of a request at any time, also while it is drained. -/
structure Queue.Sound (q : Queue) (finished : Bool) : Prop where
  empty : q.phase = .empty → q.pending = []
  accumulating : q.phase = .accumulating → q.pending ≠ []
  finished : finished = true → q.Clear

def State.Sound (s : State) : Prop := s.request.queue.Sound s.request.finished

/-- A change between sound states that leaves a finished request finished. -/
structure State.SoundChange (s s' : State) : Prop where
  change : Change s s'
  before : s.Sound
  after : s'.Sound
  finished : s.request.finished = true → s'.request.finished = true

namespace Queue

variable {q q' : Queue} {finished finished' : Bool}

theorem Clear.sound (h : q.Clear) : q.Sound finished :=
  ⟨fun _ => h.1, fun hp => absurd (h.2.symm.trans hp) nofun, fun _ => h⟩

theorem Sound.phase_eq (h : q.Sound finished) (hd : q.phase ≠ .draining) :
    q.phase = if q.pending = [] then .empty else .accumulating := by
  cases hp : q.phase with
  | empty => rw [if_pos (h.empty hp)]
  | accumulating => rw [if_neg (h.accumulating hp)]
  | draining => exact absurd hp hd

theorem sound_push (marker : Marker) (producer : Content) :
    (q.push marker producer).Sound false where
  empty := by
    intro hp
    change (if q.phase = .empty then Phase.accumulating else q.phase) = .empty at hp
    split at hp
    next => cases hp
    next hne => exact absurd hp hne
  accumulating := fun _ => List.append_ne_nil_of_right_ne_nil _ (List.cons_ne_nil _ _)
  finished := nofun

theorem Effect.sound (h : Effect q finished q' finished') (hs : q.Sound finished) :
    q'.Sound finished' := by
  cases h with
  | keep => exact hs
  | push marker producer => exact sound_push marker producer
  | take hq =>
    refine ⟨nofun, nofun, fun hf => ?_⟩
    have hnil := (hs.finished hf).1
    rw [hq] at hnil
    cases hnil
  | abandon => exact Clear.sound ⟨rfl, rfl⟩
  | finish hclear => exact hclear.sound

theorem Effect.stays (h : Effect q finished q' finished') (hf : finished = true) :
    finished' = true := by
  cases h with
  | push marker producer => cases hf
  | finish hclear => rfl
  | _ => exact hf

end Queue

/-- From a sound state on, changes lead through sound states. -/
theorem State.Leads.sound {s s' : State} (h : s.Leads s') (hs : s.Sound) :
    Relation.ReflTransGen SoundChange s s' ∧ s'.Sound := by
  induction h with
  | refl => exact ⟨.refl, hs⟩
  | tail _ hchange ih =>
    have hafter := hchange.effect.sound ih.2
    exact ⟨ih.1.tail ⟨hchange, ih.2, hafter, hchange.effect.stays⟩, hafter⟩

theorem State.Leads.finished {s s' : State} (h : s.Leads s') (hf : s.request.finished = true) :
    s'.request.finished = true :=
  leads_of_invariant (fun _ _ hchange => hchange.effect.stays) h hf

namespace Engine

theorem assertDrain_eq (e : Engine) : e.assertDrain = e.runDrain := by
  funext position buffer s
  unfold assertDrain
  obtain ⟨hnil, hnext⟩ | ⟨p, rest, _, hnext⟩ := s.next?_cases
  · simp [hnext, Queue.isEmpty, hnil]
  · simp [hnext]

theorem asserting_eq (fuel : Nat) : asserting fuel = ofFuel fuel := by
  induction fuel with
  | zero => rfl
  | succ fuel ih => rw [asserting, ih, assertDrain_eq, ofFuel]

theorem printResult_evolves {s s' : State} {out : RenderResult × State} {r : RenderResult}
    (h : s.Evolves out.2) (hout : printResult out = (r, s')) : s.Evolves s' := by
  obtain ⟨result, s₁⟩ := out
  cases result with
  | ok text =>
    cases hout
    exact h.trans (.of_queue (.print text) rfl)
  | error error =>
    cases hout
    exact h

variable {e : Engine} {a : Action} {s s' : State} {r : RenderResult}

theorem Lawful.act (lawful : e.Lawful) (h : e.act a s = some (r, s')) : s.Evolves s' := by
  cases a with
  | print text =>
    cases h
    exact .of_queue (.print text) rfl
  | defer producer =>
    cases h
    exact s.evolves_defer producer
  | render filters content => exact lawful.runContent h
  | filter filters content =>
    obtain ⟨⟨result, s₁⟩, hrun, hout⟩ := Option.map_eq_some_iff.mp h
    exact printResult_evolves (lawful.runContent hrun) hout
  | pipe list text =>
    obtain ⟨⟨result, s₁⟩, hrun, hout⟩ := Option.map_eq_some_iff.mp h
    exact printResult_evolves (lawful.invoke hrun) hout
  | flushBuffer =>
    obtain ⟨⟨result, s₁⟩, hflush, h⟩ := Option.bind_eq_some_iff.mp h
    cases h
    exact (lawful.flushBuffer hflush).evolves
  | flushDeferred buffer => exact (lawful.flushDeferred h).evolves
  | finish =>
    obtain ⟨_, _, rfl⟩ | ⟨_, _, hclears⟩ := lawful.finish h
    · exact .refl _
    · exact hclears.evolves

theorem Lawful.act_flushes (lawful : e.Lawful) (h : e.act a s = some (r, s'))
    (ha : a.flushes = true) (hr : a = .finish → r ≠ .error .requestFinished) :
    s'.request.queue.Clear := by
  cases a with
  | flushBuffer =>
    obtain ⟨⟨result, s₁⟩, hflush, h⟩ := Option.bind_eq_some_iff.mp h
    cases h
    exact (lawful.flushBuffer hflush).clear
  | flushDeferred buffer => exact (lawful.flushDeferred h).clear
  | finish =>
    obtain ⟨_, hrejected, _⟩ | ⟨_, _, hclears⟩ := lawful.finish h
    · exact absurd hrejected (hr rfl)
    · exact hclears.clear
  | _ => cases ha

theorem act_rejected (h : e.act a s = some (r, s')) (ha : a.isRejected = true)
    (hf : s.request.finished = true) : r = .error .requestFinished ∧ s' = s := by
  cases a with
  | defer producer =>
    obtain ⟨_, hdefer⟩ | ⟨hu, _⟩ := s.defer_cases producer
    · simp only [Engine.act, hdefer] at h
      cases h
      exact ⟨rfl, rfl⟩
    · rw [hf] at hu
      cases hu
  | finish =>
    simp only [Engine.act, Engine.finish, hf, if_true] at h
    cases h
    exact ⟨rfl, rfl⟩
  | _ => cases ha

end Engine

variable {filters : Registry} {markers : MarkerSource} {cache : Cache}

theorem Reached.sound {s : State} (h : Reached filters markers cache s) :
    s.Sound ∧ s.request.queue.phase ≠ .draining := by
  induction h with
  | new => exact ⟨Queue.Clear.sound ⟨rfl, rfl⟩, nofun⟩
  | act fuel _ hact ih =>
    have hevolves := (Engine.lawful_ofFuel fuel).act hact
    exact ⟨(hevolves.leads.sound ih.1).2, hevolves.undrained ih.2⟩

/-- The life of a request. Between two calls it is never draining, and its phase tells whether
something waits. A call, whatever contents and producers do in it, goes through sound states only,
and no assertion fails. A flush leaves nothing waiting, and a finished request remains so and
rejects what would change its queue, in the middle of another call as well. -/
theorem Reached.lifecycle (fuel : Nat) :
    (∀ s, Reached filters markers cache s →
      s.request.queue.phase = (if s.request.queue.pending = [] then .empty else .accumulating) ∧
      (s.request.finished = true → s.request.queue.Clear) ∧
      ∀ a r s', (Engine.ofFuel fuel).act a s = some (r, s') →
        Relation.ReflTransGen State.SoundChange s s') ∧
    (∀ a s r s', (Engine.ofFuel fuel).act a s = some (r, s') →
      (a.flushes = true → (a = .finish → r ≠ .error .requestFinished) →
        s'.request.queue.pending = []) ∧
      (s.request.finished = true → s'.request.finished = true ∧
        (a.isRejected = true → r = .error .requestFinished ∧ s' = s))) ∧
    Engine.asserting fuel = Engine.ofFuel fuel := by
  have lawful := Engine.lawful_ofFuel fuel
  refine ⟨?_, ?_, Engine.asserting_eq fuel⟩
  · intro s h
    obtain ⟨hsound, hundrained⟩ := h.sound
    exact ⟨hsound.phase_eq hundrained, hsound.finished, fun a r s' hact =>
      ((lawful.act hact).leads.sound hsound).1⟩
  · intro a s r s' hact
    exact ⟨fun ha hr => (lawful.act_flushes hact ha hr).1, fun hf =>
      ⟨(lawful.act hact).leads.finished hf, fun ha => Engine.act_rejected hact ha hf⟩⟩

/-- A producer that finishes the request and then tries to register another one. -/
theorem Reached.lifecycle_reentrant :
    ∃ s s' error, Reached {} (.distinct "n" 0) .null s ∧ s.request.queue.phase = .accumulating ∧
      (Engine.ofFuel 4).act .flushBuffer s = some (.error error, s') ∧
      s'.request.queue.pending = [] ∧ Relation.ReflTransGen State.SoundChange s s' ∧
      ∀ r s'', (Engine.ofFuel 4).act (.defer (.literal "later")) s' = some (r, s'') →
        r = .error .requestFinished ∧ s'' = s' := by
  obtain ⟨s, hs, hphase, error, s', hact, hfinished⟩ : ∃ s, Reached {} (.distinct "n" 0) .null s ∧
      s.request.queue.phase = .accumulating ∧ ∃ error s', (Engine.ofFuel 4).act .flushBuffer s =
        some (.error error, s') ∧ s'.request.finished = true :=
    ⟨_, .act (a := .defer (.perform .finish fun _ => Filter.deferred.wrap (.literal "late"))) 4
      .new rfl, rfl, _, _, rfl, rfl⟩
  obtain ⟨hreached, hany, _⟩ := @Reached.lifecycle {} (.distinct "n" 0) .null 4
  refine ⟨s, s', error, hs, hphase, hact, (hany _ _ _ _ hact).1 rfl (by simp),
    (hreached s hs).2.2 _ _ _ hact, ?_⟩
  intro r s'' hdefer
  exact ((hany _ _ _ _ hdefer).2 hfinished).2 rfl

end PageFilters
