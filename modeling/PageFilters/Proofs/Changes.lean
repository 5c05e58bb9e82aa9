import PageFilters.Proofs.Fragments
import PageFilters.Proofs.Rendering
import Mathlib.Logic.Relation

namespace PageFilters

namespace Queue

/-- Nothing waits, and no drain is under way. -/
def Clear (q : Queue) : Prop := q.pending = [] ∧ q.phase = .empty

/-- What a single change may do to the queue of a request and to its being finished. -/
inductive Effect : Queue → Bool → Queue → Bool → Prop
  | keep {q : Queue} {finished : Bool} : Effect q finished q finished
  | push {q : Queue} (marker : Marker) (producer : Content) :
      Effect q false (q.push marker producer) false
  | take {q : Queue} {finished : Bool} {p : Pending} {rest : List Pending}
      (h : q.pending = p :: rest) :
      Effect q finished { q with pending := rest, phase := .draining } finished
  | abandon {q : Queue} {finished : Bool} : Effect q finished q.abandon finished
  | finish {q : Queue} {finished : Bool} (h : q.Clear) : Effect q finished q true

theorem finishDrain_eq {q : Queue} (h : q.pending = []) : q.finishDrain = q.abandon := by
  obtain ⟨pending, phase, registered⟩ := q
  cases h
  rfl

theorem Effect.registered_le {q q' : Queue} {finished finished' : Bool}
    (h : Effect q finished q' finished') : q.registered ≤ q'.registered := by
  cases h with
  | push marker producer => exact Nat.le_succ _
  | _ => exact Nat.le_refl _

end Queue

namespace State

/-- A single change that a run makes to its state. -/
inductive Change : State → State → Prop
  | print {s : State} (text : String) : Change s (s.print text)
  | writeSlot {s : State} (name text : String) : Change s (s.writeSlot name text)
  | cacheGet {s : State} (key : String) : Change s (s.cacheGet key).2
  | cacheSet {s : State} (key value : String) (ttl : Option Nat) :
      Change s (s.cacheSet key value ttl)
  | cacheInvalidate {s : State} (key : String) : Change s (s.cacheInvalidate key)
  | cacheClear {s : State} : Change s s.cacheClear
  | defer {s : State} (producer : Content) : Change s (s.defer producer).2
  | take {s s' : State} {p : Pending} (h : s.next? = some (p, s')) : Change s s'
  | substitute {s : State} (p : Pending) (text buffer : String) :
      Change s (s.substitute p text buffer).2
  | drained {s : State} (h : s.request.queue.pending = []) : Change s s.finishDrain
  | abandon {s : State} (ticket : Nat) : Change s (s.abandon ticket)
  /-- A flush takes the buffer out. -/
  | unload {s : State} : Change s { s with request.buffer := "" }
  | emit {s : State} (text : String) :
      Change s ({ s with request.output := s.request.output ++ text }.record .flushed)
  /-- A flush that failed puts back what was in the buffer. -/
  | reload {s : State} (text : String) :
      Change s { s with request.buffer := text ++ s.request.buffer }
  | finish {s : State} (h : s.request.queue.Clear) :
      Change s { s with request.finished := true }
  /-- The output goes to the caller of `finish`. -/
  | deliver {s : State} : Change s { s with request.output := "" }

/-- Changes one after the other. -/
abbrev Leads : State → State → Prop := Relation.ReflTransGen Change

/-- What a flush does to its state: changes, after which nothing waits. -/
structure Clears (s s' : State) : Prop where
  leads : s.Leads s'
  clear : s'.request.queue.Clear

/-- What a content does to its state: changes that leave no drain under way which it did not find.
The producers that waited still do, or none of them does. -/
structure Evolves (s s' : State) : Prop where
  leads : s.Leads s'
  undrained : s.request.queue.phase ≠ .draining → s'.request.queue.phase ≠ .draining
  queue : ∃ fresh, (∀ p ∈ fresh, s.request.queue.registered < p.ticket) ∧
    (s'.request.queue.pending = s.request.queue.pending ++ fresh ∨
      s'.request.queue.pending = fresh)

theorem leads_of_invariant {P : State → Prop} (h : ∀ s s', Change s s' → P s → P s') {s s' : State}
    (hleads : s.Leads s') (hs : P s) : P s' := by
  induction hleads with
  | refl => exact hs
  | tail _ hchange ih => exact h _ _ hchange ih

theorem next?_cases (s : State) :
    (s.request.queue.pending = [] ∧ s.next? = none) ∨
    (∃ p rest, s.request.queue.pending = p :: rest ∧ s.next? = some (p, s.start p rest)) := by
  cases hq : s.request.queue.pending with
  | nil => exact .inl ⟨rfl, next?_nil hq⟩
  | cons p rest => exact .inr ⟨p, rest, rfl, next?_cons hq⟩

theorem defer_cases (s : State) (producer : Content) :
    (s.request.finished = true ∧ s.defer producer = (.error .requestFinished, s)) ∨
    (s.request.finished = false ∧ ∃ marker markers, s.request.markers.next = (marker, markers) ∧
      s.defer producer = (.ok marker, { s with
        request := { s.request with
          markers, queue := s.request.queue.push marker producer } }.record
            (.registered (s.request.queue.registered + 1)))) := by
  cases hf : s.request.finished with
  | true => exact .inl ⟨rfl, by simp [defer, hf]⟩
  | false =>
    refine .inr ⟨rfl, _, _, rfl, ?_⟩
    simp only [defer, hf, Bool.false_eq_true, if_false]
    rfl

theorem Change.effect {s s' : State} (h : Change s s') :
    Queue.Effect s.request.queue s.request.finished s'.request.queue s'.request.finished := by
  cases h with
  | cacheGet key =>
    rw [cacheGet_request]
    exact .keep
  | cacheSet key value ttl =>
    rw [cacheSet_request]
    exact .keep
  | defer producer =>
    obtain ⟨_, hdefer⟩ | ⟨hunfinished, marker, markers, _, hdefer⟩ := s.defer_cases producer
    · rw [hdefer]
      exact .keep
    · rw [hdefer]
      change Queue.Effect _ s.request.finished _ s.request.finished
      rw [hunfinished]
      exact .push marker producer
  | take hnext =>
    obtain ⟨_, hnone⟩ | ⟨p, rest, hq, hsome⟩ := s.next?_cases
    · rw [hnone] at hnext
      cases hnext
    · rw [hsome] at hnext
      cases hnext
      exact .take hq
  | substitute p text buffer =>
    obtain ⟨event, hrecord⟩ := s.substitute_snd p text buffer
    rw [hrecord]
    exact .keep
  | drained hnil =>
    change Queue.Effect _ _ s.request.queue.finishDrain _
    rw [Queue.finishDrain_eq hnil]
    exact .abandon
  | abandon ticket => exact .abandon
  | finish hclear => exact .finish hclear
  | _ => exact .keep

theorem Leads.registered_le {s s' : State} (h : s.Leads s') :
    s.request.queue.registered ≤ s'.request.queue.registered :=
  leads_of_invariant (P := fun t => s.request.queue.registered ≤ t.request.queue.registered)
    (fun _ _ hchange ht => Nat.le_trans ht hchange.effect.registered_le) h (Nat.le_refl _)

namespace Evolves

variable {s s' s'' : State}

theorem refl (s : State) : Evolves s s := ⟨.refl, id, [], by simp, .inl (by simp)⟩

theorem trans (h : Evolves s s') (h' : Evolves s' s'') : Evolves s s'' where
  leads := h.leads.trans h'.leads
  undrained := h'.undrained ∘ h.undrained
  queue := by
    obtain ⟨fresh, hfresh, hq⟩ := h.queue
    obtain ⟨fresh', hfresh', hq'⟩ := h'.queue
    have hlater : ∀ p ∈ fresh', s.request.queue.registered < p.ticket :=
      fun p hp => Nat.lt_of_le_of_lt h.leads.registered_le (hfresh' p hp)
    have hboth : ∀ p ∈ fresh ++ fresh', s.request.queue.registered < p.ticket :=
      fun p hp => (List.mem_append.mp hp).elim (hfresh p) (hlater p)
    rcases hq' with hq' | hq'
    · -- A queue that was emptied in the first part holds the young ones of both.
      rcases hq with hq | hq
      · exact ⟨fresh ++ fresh', hboth, .inl (by rw [hq', hq, List.append_assoc])⟩
      · exact ⟨fresh ++ fresh', hboth, .inr (by rw [hq', hq])⟩
    · exact ⟨fresh', hlater, .inr hq'⟩

theorem of_queue (h : Change s s') (hq : s'.request.queue = s.request.queue) : Evolves s s' :=
  ⟨.single h, fun hs => hq ▸ hs, [], by simp, .inl (by simp [hq])⟩

end Evolves

theorem Clears.evolves {s s' : State} (h : Clears s s') : Evolves s s' :=
  ⟨h.leads, fun _ hd => absurd (h.clear.2.symm.trans hd) nofun, [], nofun, .inr h.clear.1⟩

theorem evolves_defer (s : State) (producer : Content) : Evolves s (s.defer producer).2 := by
  have hchange := Change.defer (s := s) producer
  obtain ⟨_, hdefer⟩ | ⟨_, marker, markers, _, hdefer⟩ := s.defer_cases producer
  · rw [hdefer]
    exact .refl s
  · rw [hdefer] at hchange ⊢
    refine ⟨.single hchange, ?_, [⟨s.request.queue.registered + 1, marker, producer⟩], ?_, .inl rfl⟩
    · change s.request.queue.phase ≠ .draining →
        (s.request.queue.push marker producer).phase ≠ .draining
      unfold Queue.push
      split
      next => simp
      next => exact id
    · intro p hp
      rw [List.mem_singleton.mp hp]
      exact Nat.lt_succ_self _

/-- Resolving a call only opens slots. -/
theorem resolve_keeps {α : Type} (f : State → α) (h : ∀ s name, f (openSlot s name) = f s)
    (s : State) (call : Call) : f (s.resolve call).2 = f s := by
  have hslots : ∀ (names : List String) (s : State), f (names.foldl openSlot s) = f s := by
    intro names
    induction names with
    | nil => exact fun _ => rfl
    | cons name names ih => exact fun s => (ih (s.openSlot name)).trans (h s name)
  exact hslots _ s

theorem evolves_resolve (s : State) (call : Call) : Evolves s (s.resolve call).2 := by
  have hslots : ∀ (names : List String) (s : State), Evolves s (names.foldl openSlot s) := by
    intro names
    induction names with
    | nil => exact Evolves.refl
    | cons name names ih =>
      intro s
      exact (Evolves.of_queue (.writeSlot name (s.slot name)) rfl).trans (ih _)
  exact hslots _ s

end State

namespace Engine

open State

/-- The parts of a run that leave a content program are chains of changes. -/
structure Lawful (e : Engine) : Prop where
  render : ∀ {c s r s'}, e.render c s = some (r, s') → Evolves s s'
  drain : ∀ {position buffer s r buffer' s'},
    e.drain position buffer s = some (r, buffer', s') → Clears s s'
  settle : ∀ {s r s'}, e.settle s = some (r, s') → Clears s s'

namespace Lawful

variable {e : Engine} (lawful : e.Lawful)

include lawful

theorem flushBuffer {s s' : State} {r : Except RenderError Unit}
    (h : e.flushBuffer s = some (r, s')) : Clears s s' := by
  obtain ⟨⟨result, buffer, s₁⟩, hdrain, h⟩ := Option.bind_eq_some_iff.mp h
  have hclears := lawful.drain hdrain
  have hunload := Relation.ReflTransGen.head Change.unload hclears.leads
  cases result with
  | ok _ =>
    cases h
    exact ⟨hunload.tail (.emit buffer), hclears.clear⟩
  | error error =>
    cases h
    exact ⟨hunload.tail (.reload buffer), hclears.clear⟩

theorem flushDeferred {buffer : String} {s s' : State} {r : RenderResult}
    (h : e.flushDeferred buffer s = some (r, s')) : Clears s s' := by
  obtain ⟨⟨result, text, s₁⟩, hdrain, h⟩ := Option.bind_eq_some_iff.mp h
  cases h
  exact lawful.drain hdrain

/-- A call of `finish` is rejected, or flushes and finishes the request. -/
theorem finish {s s' : State} {r : RenderResult} (h : e.finish s = some (r, s')) :
    (s.request.finished = true ∧ r = .error .requestFinished ∧ s' = s) ∨
    (s.request.finished = false ∧ s'.request.finished = true ∧ Clears s s') := by
  unfold Engine.finish at h
  split at h
  next hf =>
    cases h
    exact .inl ⟨hf, rfl, rfl⟩
  next hf =>
    refine .inr ⟨Bool.eq_false_iff.mpr hf, ?_⟩
    obtain ⟨⟨result, s₁⟩, hsettle, h⟩ := Option.bind_eq_some_iff.mp h
    have hclears := lawful.settle hsettle
    have hfinish : Leads s { s₁ with request.finished := true } :=
      hclears.leads.tail (.finish hclears.clear)
    cases result with
    | ok _ =>
      cases h
      exact ⟨rfl, hfinish.tail .deliver, hclears.clear⟩
    | error error =>
      cases h
      exact ⟨rfl, hfinish, hclears.clear⟩

theorem perform {op : Op} {s s' : State} {a : op.Answer} (h : e.perform op s = some (a, s')) :
    Evolves s s' := by
  cases op with
  | print text =>
    cases h
    exact .of_queue (.print text) rfl
  | readSlot slot =>
    cases h
    exact .of_queue (.writeSlot slot (s.slot slot)) rfl
  | writeSlot slot text =>
    cases h
    exact .of_queue (.writeSlot slot text) rfl
  | cacheGet key =>
    have hs : s' = (s.cacheGet key).2 := (congrArg Prod.snd (Option.some.inj h)).symm
    rw [hs]
    exact .of_queue (.cacheGet key) (by rw [State.cacheGet_request])
  | cacheSet key value ttl =>
    cases h
    exact .of_queue (.cacheSet key value ttl) (by rw [State.cacheSet_request])
  | cacheInvalidate key =>
    cases h
    exact .of_queue (.cacheInvalidate key) rfl
  | cacheClear =>
    cases h
    exact .of_queue .cacheClear rfl
  | cacheSize =>
    cases h
    exact .refl s
  | observe =>
    cases h
    exact .refl s
  | lookup call =>
    cases h
    exact evolves_resolve s call
  | flushBuffer => exact (lawful.flushBuffer h).evolves
  | flushDeferred buffer => exact (lawful.flushDeferred h).evolves
  | finish =>
    obtain ⟨_, _, rfl⟩ | ⟨_, _, hclears⟩ := lawful.finish h
    · exact .refl _
    · exact hclears.evolves

theorem invoke {call : Call} {inner : Content} {s s' : State} {r : RenderResult}
    (h : e.invoke call inner s = some (r, s')) : Evolves s s' := by
  have hresolve := evolves_resolve s call
  unfold Engine.invoke at h
  split at h
  next filters s₁ heq =>
    rw [heq] at hresolve
    exact hresolve.trans (lawful.render h)
  next error s₁ heq =>
    rw [heq] at hresolve
    cases h
    exact hresolve

theorem runContent {c : Content} {s s' : State} {r : RenderResult}
    (h : e.runContent c s = some (r, s')) : Evolves s s' := by
  induction c generalizing s with
  | done result =>
    cases h
    exact .refl _
  | perform op next ih =>
    obtain ⟨⟨answer, s₁⟩, hop, h⟩ := Option.bind_eq_some_iff.mp h
    exact (lawful.perform hop).trans (ih answer h)
  | defer producer next _ ih => exact (evolves_defer s producer).trans (ih _ h)
  | yield next ih => exact ih _ h
  | invoke call inner next _ ih =>
    obtain ⟨⟨result, s₁⟩, hcall, h⟩ := Option.bind_eq_some_iff.mp h
    exact (lawful.invoke hcall).trans (ih result h)

theorem runDrain {position : Nat} {buffer buffer' : String} {s s' : State}
    {r : Except RenderError Unit} (h : e.runDrain position buffer s = some (r, buffer', s')) :
    Clears s s' := by
  unfold Engine.runDrain at h
  obtain ⟨hnil, hnext⟩ | ⟨p, rest, _, hnext⟩ := s.next?_cases
  · rw [hnext] at h
    cases h
    exact ⟨.single (.drained hnil), hnil, rfl⟩
  · rw [hnext] at h
    obtain ⟨⟨result, s₁⟩, hrun, h⟩ := Option.bind_eq_some_iff.mp h
    have hleads : s.Leads s₁ := .head (.take hnext) (lawful.runContent hrun).leads
    cases result with
    | ok text =>
      have hclears := lawful.drain h
      exact ⟨(hleads.tail (.substitute p text buffer)).trans hclears.leads, hclears.clear⟩
    | error error =>
      cases h
      exact ⟨hleads.tail (.abandon p.ticket), rfl, rfl⟩

theorem runSettle {s s' : State} {r : Except RenderError Unit}
    (h : e.runSettle s = some (r, s')) : Clears s s' := by
  obtain ⟨⟨result, s₁⟩, hflush, h⟩ := Option.bind_eq_some_iff.mp h
  have hclears := lawful.flushBuffer hflush
  cases result with
  | error error =>
    cases h
    exact hclears
  | ok _ =>
    simp only at h
    split at h
    next =>
      cases h
      exact hclears
    next =>
      have hmore := lawful.settle h
      exact ⟨hclears.leads.trans hmore.leads, hmore.clear⟩

end Lawful

theorem lawful_ofFuel (fuel : Nat) : (ofFuel fuel).Lawful := by
  -- Nested drains and flushes run on less fuel, so they may be taken to be lawful.
  induction fuel with
  | zero => exact ⟨nofun, nofun, nofun⟩
  | succ fuel ih => exact ⟨ih.runContent, ih.runDrain, ih.runSettle⟩

end Engine

end PageFilters
