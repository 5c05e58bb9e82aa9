import PageFilters.Proofs.Lifecycle

namespace PageFilters

/-- The calls of `finish` in a part of a run, in the order in which they were made. -/
inductive Finishes where
  | none
  /-- A call with those made while it ran, its answer if it has returned, and those made later. -/
  | call (inner : Finishes) (answer : Option RenderResult) (later : Finishes)

namespace Finishes

def append : Finishes → Finishes → Finishes
  | none, g => g
  | call inner answer later, g => call inner answer (later.append g)

/-- The number of calls that returned a text. -/
def accepted : Finishes → Nat
  | none => 0
  | call inner answer later =>
    (if answer.any Except.isOk then 1 else 0) + inner.accepted + later.accepted

/-- Once a call has returned a text, none made after it does. -/
def Chained : Finishes → Prop
  | none => True
  | call inner answer later => inner.Chained ∧ later.Chained ∧
      (0 < (call inner answer none).accepted → later.accepted = 0)

theorem accepted_append (f g : Finishes) :
    (f.append g).accepted = f.accepted + g.accepted := by
  induction f with
  | none => simp [append, accepted]
  | call inner answer later _ ih => simp only [append, accepted, ih, Nat.add_assoc]

theorem chained_append {f g : Finishes} (hf : f.Chained) (hg : g.Chained)
    (h : 0 < f.accepted → g.accepted = 0) : (f.append g).Chained := by
  induction f with
  | none => exact hg
  | call inner answer later _ ih =>
    obtain ⟨hinner, hlater, hnext⟩ := hf
    refine ⟨hinner, ih hlater fun hpos => h ?_, fun hpos => ?_⟩
    · rw [accepted]
      omega
    · rw [accepted_append, hnext hpos, h]
      rw [accepted, accepted] at *
      omega

end Finishes

/-- How far a part of a run has come. -/
structure Progress where
  calls : Finishes := .none
  state : State

/-- What the next part adds, if this one has ended. -/
def Progress.andThen {α : Type} (p : Progress) (out : Option α) (next : α → Progress) : Progress :=
  match out with
  | none => p
  | some a => ⟨p.calls.append (next a).calls, (next a).state⟩

/-- How far the parts of a run that leave a content program come before they end or their fuel is
used up. -/
structure Watch where
  render : Content → State → Progress
  drain : Nat → String → State → Progress
  settle : State → Progress

namespace Watch

section Parts

variable (e : Engine) (w : Watch)

def flushBuffer (s : State) : Progress :=
  (w.drain 0 s.request.buffer { s with request.buffer := "" }).andThen (e.flushBuffer s)
    fun out => { state := out.2 }

def flushDeferred (buffer : String) (s : State) : Progress :=
  (w.drain 0 buffer s).andThen (e.flushDeferred buffer s) fun out => { state := out.2 }

def finish (s : State) : Progress :=
  let p := if s.request.finished then { state := s } else w.settle s
  match e.finish s with
  | none => ⟨.call p.calls none .none, p.state⟩
  | some (result, s) => ⟨.call p.calls (some result) .none, s⟩

def perform : Op → State → Progress
  | .flushBuffer, s => w.flushBuffer e s
  | .flushDeferred buffer, s => w.flushDeferred e buffer s
  | .finish, s => w.finish e s
  | op, s => Progress.andThen { state := s } (e.perform op s) fun out => { state := out.2 }

def invoke (call : Call) (inner : Content) (s : State) : Progress :=
  match s.resolve call with
  | (.ok filters, s) => w.render (Filter.compose filters inner) s
  | (.error _, s) => { state := s }

def runContent : Content → State → Progress
  | .done _, s => { state := s }
  | .perform op next, s =>
    (w.perform e op s).andThen (e.perform op s) fun out => runContent (next out.1) out.2
  | .defer producer next, s => runContent (next (s.defer producer).1) (s.defer producer).2
  | .yield next, s => runContent (next (.ok "")) s
  | .invoke call inner next, s =>
    (w.invoke call inner s).andThen (e.invoke call inner s) fun out =>
      runContent (next out.1) out.2

def runDrain (position : Nat) (buffer : String) (s : State) : Progress :=
  match s.next? with
  | none => { state := s.finishDrain }
  | some (p, s) =>
    (w.runContent e p.producer s).andThen (e.runContent p.producer s) fun
      | (.ok text, s) =>
        w.drain (position + 1) (s.substitute p text buffer).1 (s.substitute p text buffer).2
      | (.error _, s) => { state := s.abandon p.ticket }

def runSettle (s : State) : Progress :=
  (w.flushBuffer e s).andThen (e.flushBuffer s) fun
    | (.error _, s) => { state := s }
    | (.ok (), s) =>
      if s.request.buffer.isEmpty && s.request.queue.isEmpty then { state := s } else w.settle s

/-- A call on the request, up to the point where its text would be printed. -/
def call : Action → State → Progress
  | .render filters content, s => w.runContent e (Filter.compose filters content) s
  | .filter filters content, s => w.runContent e (Filter.compose filters content) s
  | .pipe list text, s => w.invoke (.piped list) (.literal text) s
  | .flushBuffer, s => w.flushBuffer e s
  | .flushDeferred buffer, s => w.flushDeferred e buffer s
  | .finish, s => w.finish e s
  | _, s => { state := s }

def act (a : Action) (s : State) : Progress :=
  (w.call e a s).andThen (e.act a s) fun out => { state := out.2 }

/-- Calls on the request one after the other, up to the first that does not return. -/
def actAll : List Action → State → Progress
  | [], s => { state := s }
  | a :: as, s => (w.act e a s).andThen (e.act a s) fun out => actAll as out.2

end Parts

/-- What can be seen of runs with a given amount of fuel. -/
def ofFuel : Nat → Watch
  | 0 =>
    { render := fun _ s => { state := s }
      drain := fun _ _ s => { state := s }
      settle := fun s => { state := s } }
  | fuel + 1 =>
    { render := (ofFuel fuel).runContent (.ofFuel fuel)
      drain := (ofFuel fuel).runDrain (.ofFuel fuel)
      settle := (ofFuel fuel).runSettle (.ofFuel fuel) }

end Watch

/-- What is seen of a run that starts in a state. -/
structure Progress.Since (s : State) (p : Progress) : Prop where
  leads : s.Leads p.state
  rejected : s.request.finished = true → p.calls.accepted = 0
  finished : 0 < p.calls.accepted → p.state.request.finished = true
  chained : p.calls.Chained

namespace Progress

open State

variable {s s' : State} {p q : Progress}

theorem since_of_leads (h : s.Leads s') : Since s { state := s' } :=
  ⟨h, fun _ => rfl, fun hpos => absurd hpos (Nat.lt_irrefl 0), trivial⟩

theorem Since.trans (h : Since s p) (h' : Since p.state q) :
    Since s ⟨p.calls.append q.calls, q.state⟩ where
  leads := h.leads.trans h'.leads
  rejected := by
    intro hf
    rw [Finishes.accepted_append, h.rejected hf, h'.rejected (h.leads.finished hf)]
  finished := by
    intro hpos
    rw [Finishes.accepted_append] at hpos
    by_cases hp : 0 < p.calls.accepted
    · exact h'.leads.finished (h.finished hp)
    · exact h'.finished (by omega)
  chained := Finishes.chained_append h.chained h'.chained fun hpos => h'.rejected (h.finished hpos)

/-- A part of a run is followed by the next one in the state in which it ended. -/
theorem Since.andThen {α : Type} {out : Option α} {next : α → Progress} (h : Since s p)
    (hnext : ∀ a, out = some a → Since p.state (next a)) : Since s (p.andThen out next) := by
  cases out with
  | none => exact h
  | some a => exact h.trans (hnext a rfl)

theorem andThen_state {α : Type} {out : Option α} {next : α → Progress} {a : α}
    (h : out = some a) : (p.andThen out next).state = (next a).state := by
  rw [h]
  rfl

end Progress

namespace Watch

open State Progress

/-- What is seen of the parts of a run that leave a content program starts where they start, and
ends where they end. -/
structure Sound (e : Engine) (w : Watch) : Prop where
  render : ∀ c s, Since s (w.render c s)
  render_state : ∀ {c s r s'}, e.render c s = some (r, s') → (w.render c s).state = s'
  drain : ∀ position buffer s, Since s (w.drain position buffer s)
  drain_state : ∀ {position buffer s r buffer' s'},
    e.drain position buffer s = some (r, buffer', s') → (w.drain position buffer s).state = s'
  settle : ∀ s, Since s (w.settle s)
  settle_state : ∀ {s r s'}, e.settle s = some (r, s') → (w.settle s).state = s'

theorem perform_state {e : Engine} {w : Watch} {op : Op} {s s' : State} {a : op.Answer}
    (h : e.perform op s = some (a, s')) : (w.perform e op s).state = s' := by
  cases op with
  | finish =>
    change e.finish s = some (a, s') at h
    simp only [perform, finish, h]
  | flushBuffer => exact andThen_state h
  | flushDeferred buffer => exact andThen_state h
  | _ => exact andThen_state h

theorem runContent_state {e : Engine} {w : Watch} {c : Content} {s s' : State} {r : RenderResult}
    (h : e.runContent c s = some (r, s')) : (w.runContent e c s).state = s' := by
  induction c generalizing s with
  | done result =>
    cases h
    rfl
  | perform op next ih =>
    obtain ⟨⟨answer, s₁⟩, hop, h⟩ := Option.bind_eq_some_iff.mp h
    exact (andThen_state hop).trans (ih answer h)
  | defer producer next _ ih => exact ih _ h
  | yield next ih => exact ih _ h
  | invoke call inner next _ ih =>
    obtain ⟨⟨result, s₁⟩, hcall, h⟩ := Option.bind_eq_some_iff.mp h
    exact (andThen_state hcall).trans (ih result h)

namespace Sound

variable {e : Engine} {w : Watch} (lawful : e.Lawful) (sound : w.Sound e)

include sound

theorem invoke_state {call : Call} {inner : Content} {s s' : State} {r : RenderResult}
    (h : e.invoke call inner s = some (r, s')) : (w.invoke call inner s).state = s' := by
  unfold Engine.invoke at h
  unfold Watch.invoke
  cases hresolve : s.resolve call with
  | mk resolved s₁ =>
    rw [hresolve] at h
    cases resolved with
    | ok filters => exact sound.render_state h
    | error error =>
      cases h
      rfl

theorem flushBuffer (s : State) : Since s (w.flushBuffer e s) := by
  have hunload : Since s { state := { s with request.buffer := "" } } :=
    since_of_leads (.single .unload)
  refine (hunload.trans (sound.drain 0 s.request.buffer _)).andThen fun out hout => ?_
  obtain ⟨⟨result, text, s₁⟩, hdrain, hout⟩ := Option.bind_eq_some_iff.mp hout
  dsimp only
  rw [sound.drain_state hdrain]
  cases result with
  | ok _ =>
    cases hout
    exact since_of_leads (.single (.emit text))
  | error error =>
    cases hout
    exact since_of_leads (.single (.reload text))

theorem flushDeferred (buffer : String) (s : State) : Since s (w.flushDeferred e buffer s) := by
  refine (sound.drain 0 buffer s).andThen fun out hout => ?_
  obtain ⟨⟨result, text, s₁⟩, hdrain, hout⟩ := Option.bind_eq_some_iff.mp hout
  cases hout
  rw [sound.drain_state hdrain]
  exact since_of_leads .refl

theorem invoke (call : Call) (inner : Content) (s : State) : Since s (w.invoke call inner s) := by
  have hresolve := (s.evolves_resolve call).leads
  unfold Watch.invoke
  split
  next filters s₁ heq =>
    rw [heq] at hresolve
    exact (since_of_leads hresolve).trans (sound.render _ _)
  next error s₁ heq =>
    rw [heq] at hresolve
    exact since_of_leads hresolve

include lawful

/-- A call of `finish` that returns a text has finished the request. -/
theorem finish (s : State) : Since s (w.finish e s) := by
  unfold Watch.finish
  by_cases hf : s.request.finished = true
  · have hrejected : e.finish s = some (.error .requestFinished, s) := by
      simp only [Engine.finish, hf, if_true]
    simp only [hrejected, hf, if_true]
    exact ⟨.refl, fun _ => rfl, fun _ => hf, trivial, trivial, fun _ => rfl⟩
  · have hsettle := sound.settle s
    simp only [hf, Bool.false_eq_true, if_false]
    cases hfinish : e.finish s with
    | none =>
      refine ⟨hsettle.leads, fun h => absurd h hf, fun hpos => hsettle.finished ?_,
        hsettle.chained, trivial, fun _ => rfl⟩
      simpa [Finishes.accepted] using hpos
    | some out =>
      obtain ⟨hfinished, _⟩ | ⟨_, hfinished, hclears⟩ := lawful.finish hfinish
      · exact absurd hfinished hf
      · exact ⟨hclears.leads, fun h => absurd h hf, fun _ => hfinished, hsettle.chained, trivial,
          fun _ => rfl⟩

theorem perform (op : Op) (s : State) : Since s (w.perform e op s) := by
  have hleads : ∀ out, e.perform op s = some out → s.Leads out.2 :=
    fun _ h => (lawful.perform h).leads
  cases op with
  | flushBuffer => exact sound.flushBuffer s
  | flushDeferred buffer => exact sound.flushDeferred buffer s
  | finish => exact sound.finish lawful s
  | _ => exact (since_of_leads .refl).andThen fun out hout => since_of_leads (hleads out hout)

theorem runContent (c : Content) (s : State) : Since s (w.runContent e c s) := by
  induction c generalizing s with
  | done result => exact since_of_leads .refl
  | perform op next ih =>
    refine (sound.perform lawful op s).andThen fun out hop => ?_
    rw [perform_state hop]
    exact ih out.1 out.2
  | defer producer next _ ih =>
    exact (since_of_leads (.single (.defer producer))).trans (ih _ _)
  | yield next ih => exact ih _ s
  | invoke call inner next _ ih =>
    refine (sound.invoke call inner s).andThen fun out hcall => ?_
    rw [sound.invoke_state hcall]
    exact ih out.1 out.2

theorem runDrain (position : Nat) (buffer : String) (s : State) :
    Since s (w.runDrain e position buffer s) := by
  unfold Watch.runDrain
  obtain ⟨hnil, hnext⟩ | ⟨p, rest, _, hnext⟩ := s.next?_cases
  · rw [hnext]
    exact since_of_leads (.single (.drained hnil))
  · rw [hnext]
    refine Since.andThen ((since_of_leads (.single (.take hnext))).trans
      (sound.runContent lawful p.producer _)) fun out hrun => ?_
    obtain ⟨result, s₁⟩ := out
    rw [runContent_state hrun]
    cases result with
    | ok text =>
      exact (since_of_leads (.single (.substitute p text buffer))).trans (sound.drain _ _ _)
    | error error => exact since_of_leads (.single (.abandon p.ticket))

omit lawful

theorem runSettle (s : State) : Since s (w.runSettle e s) := by
  refine (sound.flushBuffer s).andThen fun out hflush => ?_
  have hstate : (w.flushBuffer e s).state = out.2 := andThen_state hflush
  rw [hstate]
  obtain ⟨result, s₁⟩ := out
  cases result with
  | error error => exact since_of_leads .refl
  | ok _ =>
    dsimp only
    split
    next => exact since_of_leads .refl
    next => exact sound.settle s₁

theorem runDrain_state {position : Nat} {buffer buffer' : String} {s s' : State}
    {r : Except RenderError Unit} (h : e.runDrain position buffer s = some (r, buffer', s')) :
    (w.runDrain e position buffer s).state = s' := by
  unfold Engine.runDrain at h
  unfold Watch.runDrain
  obtain ⟨_, hnext⟩ | ⟨p, rest, _, hnext⟩ := s.next?_cases
  · rw [hnext] at h ⊢
    cases h
    rfl
  · rw [hnext] at h ⊢
    obtain ⟨⟨result, s₁⟩, hrun, h⟩ := Option.bind_eq_some_iff.mp h
    refine (andThen_state hrun).trans ?_
    cases result with
    | ok text => exact sound.drain_state h
    | error error =>
      cases h
      rfl

theorem runSettle_state {s s' : State} {r : Except RenderError Unit}
    (h : e.runSettle s = some (r, s')) : (w.runSettle e s).state = s' := by
  obtain ⟨⟨result, s₁⟩, hflush, h⟩ := Option.bind_eq_some_iff.mp h
  refine (andThen_state hflush).trans ?_
  cases result with
  | error error =>
    cases h
    rfl
  | ok _ =>
    dsimp only at h ⊢
    split at h
    next hempty =>
      cases h
      rw [if_pos hempty]
    next hempty =>
      rw [if_neg hempty]
      exact sound.settle_state h

end Sound

theorem sound_ofFuel (fuel : Nat) : (ofFuel fuel).Sound (.ofFuel fuel) := by
  induction fuel with
  | zero =>
    exact ⟨fun _ _ => since_of_leads .refl, nofun, fun _ _ _ => since_of_leads .refl, nofun,
      fun _ => since_of_leads .refl, nofun⟩
  | succ fuel ih =>
    have lawful := Engine.lawful_ofFuel fuel
    exact ⟨ih.runContent lawful, runContent_state, ih.runDrain lawful, ih.runDrain_state,
      ih.runSettle, ih.runSettle_state⟩

namespace Sound

variable {e : Engine} {w : Watch} (lawful : e.Lawful) (sound : w.Sound e)

include lawful sound

theorem act (a : Action) (s : State) : Since s (w.act e a s) := by
  have hprint : ∀ {s₁ : State} {out out' : RenderResult × State}, s₁ = out.2 →
      Engine.printResult out = out' → Since s₁ { state := out'.2 } :=
    fun hs hout => hs ▸ since_of_leads (Engine.printResult_evolves (.refl _) hout).leads
  cases a with
  | print text =>
    refine (since_of_leads .refl).andThen fun out hout => ?_
    cases hout
    exact since_of_leads (.single (.print text))
  | defer producer =>
    refine (since_of_leads .refl).andThen fun out hout => ?_
    cases hout
    exact since_of_leads (.single (.defer producer))
  | render filters content =>
    refine (sound.runContent lawful _ s).andThen fun out hrun => ?_
    rw [runContent_state hrun]
    exact since_of_leads .refl
  | filter filters content =>
    refine (sound.runContent lawful _ s).andThen fun out hout => ?_
    obtain ⟨inner, hrun, hout⟩ := Option.map_eq_some_iff.mp hout
    exact hprint (runContent_state hrun) hout
  | pipe list text =>
    refine (sound.invoke _ _ s).andThen fun out hout => ?_
    obtain ⟨inner, hcall, hout⟩ := Option.map_eq_some_iff.mp hout
    exact hprint (sound.invoke_state hcall) hout
  | flushBuffer =>
    refine (sound.flushBuffer s).andThen fun out hout => ?_
    obtain ⟨inner, hflush, hout⟩ := Option.bind_eq_some_iff.mp hout
    have hstate : (w.flushBuffer e s).state = inner.2 := andThen_state hflush
    cases hout
    exact hstate ▸ since_of_leads .refl
  | flushDeferred buffer =>
    refine (sound.flushDeferred buffer s).andThen fun out hflush => ?_
    have hstate : (w.flushDeferred e buffer s).state = out.2 := andThen_state hflush
    exact hstate ▸ since_of_leads .refl
  | finish =>
    refine (sound.finish lawful s).andThen fun out hfinish => ?_
    have hstate : (w.finish e s).state = out.2 := @perform_state e w .finish s out.2 out.1 hfinish
    exact hstate ▸ since_of_leads .refl

theorem actAll (as : List Action) (s : State) : Since s (w.actAll e as s) := by
  induction as generalizing s with
  | nil => exact since_of_leads .refl
  | cons a as ih =>
    refine (sound.act lawful a s).andThen fun out hact => ?_
    have hstate : (w.act e a s).state = out.2 := andThen_state hact
    rw [hstate]
    exact ih out.2

end Sound

/-- What is seen of the life of a request on which calls are made. -/
def life (fuel : Nat) (filters : Registry) (markers : MarkerSource) (cache : Cache)
    (as : List Action) : Progress :=
  (ofFuel fuel).actAll (.ofFuel fuel) as { request := { filters, markers }, cache }

theorem life_since (fuel : Nat) (filters : Registry) (markers : MarkerSource) (cache : Cache)
    (as : List Action) :
    Since { request := { filters, markers }, cache } (life fuel filters markers cache as) :=
  (sound_ofFuel fuel).actAll (Engine.lawful_ofFuel fuel) as _

end Watch

end PageFilters
