import PageFilters.Proofs.Twins

namespace PageFilters

variable {tap : Tap} {calls : Call → Prop} {old : String}

namespace Trace

variable {α β : Type}

/-- The trace ends as a run with the tap does, and a run without it ends alike. At no moment of it
is there anything else in the slot than there should be. -/
structure Tells (tap : Tap) (calls : Call → Prop) (old : String) (tr : Trace α)
    (out out' : Option (α × State)) : Prop where
  outcome : tr.ended.map (fun last => (last.1, last.2.state)) = out
  passed : ∀ m ∈ tr.passed, m.state.slot tap.slot = m.texts.headD old
  twin : Option.Rel (fun last o => last.1 = o.1 ∧ last.2.Twin tap calls old o.2) tr.ended out'

namespace Tells

variable {tr : Trace α} {out out' : Option (α × State)} {next : α → Moment → Trace β}
  {m : Moment} {t : State}

theorem none : Tells (α := α) tap calls old ⟨[], .none⟩ .none .none :=
  ⟨rfl, nofun, .none⟩

theorem pure {a b : α} (hab : a = b) (h : m.Twin tap calls old t) :
    (Trace.pure a m).Tells tap calls old (some (a, m.state)) (some (b, t)) :=
  ⟨rfl, nofun, .some ⟨hab, h⟩⟩

theorem step {a b : α} (hab : a = b) (h : m.Twin tap calls old t) :
    (Trace.step a m).Tells tap calls old (some (a, m.state)) (some (b, t)) :=
  ⟨rfl, fun _ hm => List.mem_singleton.mp hm ▸ h.text, .some ⟨hab, h⟩⟩

theorem andThen {f g : α × State → Option (β × State)} (h : tr.Tells tap calls old out out')
    (hnext : ∀ a m t, m.Twin tap calls old t →
      (next a m).Tells tap calls old (f (a, m.state)) (g (a, t))) :
    (tr.andThen next).Tells tap calls old (out.bind f) (out'.bind g) := by
  obtain ⟨passed, ended⟩ := tr
  obtain ⟨rfl, hpassed, htwin⟩ := h
  cases htwin with
  | none => exact ⟨rfl, hpassed, .none⟩
  | @some last o hlast =>
    obtain ⟨a, m⟩ := last
    obtain ⟨b, t⟩ := o
    obtain ⟨rfl, htwin⟩ := hlast
    obtain ⟨houtcome, hlater, hend⟩ := hnext _ _ _ htwin
    exact ⟨houtcome, fun m hm => (List.mem_append.mp hm).elim (hpassed m) (hlater m), hend⟩

/-- The rest of a content program, which depends on what was answered. -/
theorem andThen_part {e : Engine} {tapped : Bool} {rest : α → Content}
    {next : α → Moment → Trace RenderResult} (h : tr.Tells tap calls old out out')
    (hnext : ∀ a m t, m.Twin tap calls old t → (next a m).Tells tap calls old
      (e.runContent (Part.fill tap.outer ⟨rest a, tapped⟩) m.state)
      (e.runContent (Part.fill tap.inner ⟨rest a, tapped⟩) t)) :
    (tr.andThen next).Tells tap calls old
      (out.bind fun o => e.runContent (Part.fill tap.outer ⟨rest o.1, tapped⟩) o.2)
      (out'.bind fun o => e.runContent (Part.fill tap.inner ⟨rest o.1, tapped⟩) o.2) :=
  h.andThen hnext

/-- A step that the runs take in the same way. -/
theorem step_andThen {a : α} {out out' : Option (β × State)} (h : m.Twin tap calls old t)
    (hnext : (next a m).Tells tap calls old out out') :
    ((Trace.step a m).andThen next).Tells tap calls old out out' :=
  ⟨hnext.outcome, fun _ hm => (List.mem_cons.mp hm).elim (fun he => he ▸ h.text) (hnext.passed _),
    hnext.twin⟩

end Tells

end Trace

/-- Calls on the request one after the other, with the answers of all. -/
def Engine.actAll (e : Engine) : List Action → State → Option (List RenderResult × State)
  | [], s => some ([], s)
  | a :: as, s => do
    let (r, s) ← e.act a s
    let (rs, s) ← e.actAll as s
    return (r :: rs, s)

/-- The outcome of a drain with the state apart. -/
def Engine.drained (e : Engine) (position : Nat) (buffer : String) (s : State) :
    Option ((Except RenderError Unit × String) × State) :=
  (e.drain position buffer s).map fun out => ((out.1, out.2.1), out.2.2)

theorem Engine.drain_bind {α : Type} (e : Engine) (position : Nat) (buffer : String) (s : State)
    (f : Except RenderError Unit × String × State → Option α) :
    (e.drain position buffer s).bind f =
      (e.drained position buffer s).bind fun out => f (out.1.1, out.1.2, out.2) := by
  rw [drained, Option.bind_map]
  rfl

theorem Tap.run_outer (tap : Tap) (e : Engine) (s : State) :
    e.runContent tap.outer s = (e.runContent tap.inner s).bind fun
      | (.ok text, s) => some (.ok text, s.writeSlot tap.slot text)
      | (.error error, s) => some (.error error, s) := by
  simp only [outer, Filter.tee, Filter.wrap, Content.fill, e.runContent_andThen]
  congr 1
  funext out
  obtain ⟨result, s⟩ := out
  cases result <;> rfl

namespace Observer

open Trace

/-- What is seen is how the engine runs, with a tap and without. -/
structure Follows (tap : Tap) (calls : Call → Prop) (old : String) (o : Observer) (e : Engine) :
    Prop where
  render : ∀ {p m t}, p.content.Avoids tap.slot calls → m.Twin tap calls old t →
    (o.render p m).Tells tap calls old (e.render (p.fill tap.outer) m.state)
      (e.render (p.fill tap.inner) t)
  drain : ∀ {position buffer m t}, m.Twin tap calls old t →
    (o.drain position buffer m).Tells tap calls old (e.drained position buffer m.state)
      (e.drained position buffer t)
  settle : ∀ {m t}, m.Twin tap calls old t →
    (o.settle m).Tells tap calls old (e.settle m.state) (e.settle t)

theorem tells_defer {m : Moment} {t : State} {p : Part} (hp : p.content.Avoids tap.slot calls)
    (h : m.Twin tap calls old t) :
    (defer tap p m).Tells tap calls old (some (m.state.defer (p.fill tap.outer)))
      (some (t.defer (p.fill tap.inner))) := by
  unfold defer
  obtain ⟨s, hdefer, hdefer', hs⟩ | ⟨marker, s, t', hdefer, hdefer', hs⟩ := h.defer hp
  · rw [hdefer, hdefer']
    exact .step rfl hs
  · rw [hdefer, hdefer']
    exact .step rfl hs

theorem tells_printResult {m : Moment} {t : State} {result : RenderResult}
    (h : m.Twin tap calls old t) :
    (printResult result m).Tells tap calls old
      (some (Engine.printResult (result, m.state))) (some (Engine.printResult (result, t))) := by
  cases result with
  | ok text => exact .step rfl (h.print text)
  | error error => exact .pure rfl h

namespace Follows

variable {o : Observer} {e : Engine} {m : Moment} {t : State} (follows : o.Follows tap calls old e)

include follows

theorem flushBuffer (h : m.Twin tap calls old t) :
    (o.flushBuffer m).Tells tap calls old (e.flushBuffer m.state) (e.flushBuffer t) := by
  unfold Engine.flushBuffer
  rw [Option.bind_eq_bind, e.drain_bind, e.drain_bind, ← h.buffer]
  refine .step_andThen h.unload ((follows.drain h.unload).andThen ?_)
  rintro ⟨result, buffer⟩ m t h
  cases result with
  | ok _ =>
    exact .step rfl ((h.edit (fun r => { r with output := r.output ++ buffer })
      (fun _ _ => rfl) rfl).record .flushed)
  | error error =>
    exact .step rfl (h.edit (fun r => { r with buffer := buffer ++ r.buffer }) (fun _ _ => rfl) rfl)

theorem flushDeferred (buffer : String) (h : m.Twin tap calls old t) :
    (o.flushDeferred buffer m).Tells tap calls old (e.flushDeferred buffer m.state)
      (e.flushDeferred buffer t) := by
  unfold Engine.flushDeferred
  rw [Option.bind_eq_bind, e.drain_bind, e.drain_bind]
  exact (follows.drain h).andThen fun _ _ _ h => .pure rfl h

theorem finish (h : m.Twin tap calls old t) :
    (o.finish m).Tells tap calls old (e.finish m.state) (e.finish t) := by
  unfold Observer.finish Engine.finish
  rw [← h.finished]
  split
  next => exact .pure rfl h
  next =>
    refine (follows.settle h).andThen fun result m t h => ?_
    have hfinish := h.edit (fun r => { r with finished := true }) (fun _ _ => rfl) rfl
    refine .step_andThen hfinish ?_
    cases result with
    | ok _ =>
      have houtput : m.state.request.output = t.request.output := by rw [h.request]
      exact .step (congrArg Except.ok houtput)
        (hfinish.edit (fun r => { r with output := "" }) (fun _ _ => rfl) rfl)
    | error error => exact .pure rfl hfinish

theorem perform {op : Op} (hop : op.Avoids tap.slot) (h : m.Twin tap calls old t) :
    (o.perform op m).Tells tap calls old (e.perform op m.state) (e.perform op t) := by
  cases op with
  | print text => exact .step rfl (h.print text)
  | readSlot slot =>
    have hslot := h.slots slot hop
    refine .step hslot ?_
    rw [State.openSlot, State.openSlot, ← hslot]
    exact h.write hop _
  | writeSlot slot text => exact .step rfl (h.write hop text)
  | cacheGet key =>
    obtain ⟨hanswer, hget⟩ := h.cacheGet key
    exact .step hanswer hget
  | cacheSet key value ttl => exact .step rfl (h.cacheSet key value ttl)
  | cacheInvalidate key => exact .step rfl (h.change (·.invalidate key))
  | cacheClear => exact .step rfl (h.change MemoryCache.clear)
  | cacheSize => exact .pure (congrArg Cache.size h.cache) h
  | observe => exact .pure h.snapshot h
  | lookup call =>
    obtain ⟨hanswer, hresolve⟩ := h.resolve call
    exact .step (congrArg (Except.map fun _ => ()) hanswer) hresolve
  | flushBuffer => exact follows.flushBuffer h
  | flushDeferred buffer => exact follows.flushDeferred buffer h
  | finish => exact follows.finish h

theorem invoke {call : Call} {p : Part} (hcall : calls call) (hp : p.content.Avoids tap.slot calls)
    (h : m.Twin tap calls old t) :
    (o.invoke call p m).Tells tap calls old (e.invoke call (p.fill tap.outer) m.state)
      (e.invoke call (p.fill tap.inner) t) := by
  obtain ⟨hanswer, hresolve⟩ := h.resolve call
  have hfill : ∀ inner filters, Filter.compose filters (p.fill inner) =
      Part.fill inner { p with content := Filter.compose filters p.content } := by
    intro inner filters
    unfold Part.fill
    split
    next => rw [Filter.fill_compose]
    next => rfl
  unfold Observer.invoke Engine.invoke
  obtain ⟨answer, s, hs⟩ : ∃ answer s, m.state.resolve call = (answer, s) := ⟨_, _, rfl⟩
  obtain ⟨answer', t', ht⟩ : ∃ answer s, t.resolve call = (answer, s) := ⟨_, _, rfl⟩
  rw [hs, ht] at hanswer hresolve
  cases hanswer
  rw [hs, ht]
  cases answer with
  | error error => exact .step rfl hresolve
  | ok filters =>
    simp only [hfill]
    have hfilters := h.filters call filters hcall (congrArg Prod.fst ht)
    exact .step_andThen hresolve (follows.render (Filter.avoids_compose hfilters hp) hresolve)

theorem runContent (tapped : Bool) {hole : Moment → Trace RenderResult} {c : Content}
    (hc : c.Avoids tap.slot calls)
    (hyield : ∀ {next : RenderResult → Content} {m t}, m.Twin tap calls old t →
      (∀ r m t, m.Twin tap calls old t →
        (o.runContent tap tapped hole (next r) m).Tells tap calls old
          (e.runContent (Part.fill tap.outer ⟨next r, tapped⟩) m.state)
          (e.runContent (Part.fill tap.inner ⟨next r, tapped⟩) t)) →
      (o.runContent tap tapped hole (.yield next) m).Tells tap calls old
        (e.runContent (Part.fill tap.outer ⟨.yield next, tapped⟩) m.state)
        (e.runContent (Part.fill tap.inner ⟨.yield next, tapped⟩) t))
    (h : m.Twin tap calls old t) :
    (o.runContent tap tapped hole c m).Tells tap calls old
      (e.runContent (Part.fill tap.outer ⟨c, tapped⟩) m.state)
      (e.runContent (Part.fill tap.inner ⟨c, tapped⟩) t) := by
  -- What is not behind the tap differs only in the contents that are left to run.
  induction c generalizing m t with
  | done result => cases tapped <;> exact .pure rfl h
  | perform op next ih =>
    have hrest := (follows.perform hc.1 h).andThen_part fun a m t h => ih a (hc.2 a) h
    cases tapped <;> exact hrest
  | defer producer next _ ih =>
    have hrest := (tells_defer (p := ⟨producer, tapped⟩) hc.1 h).andThen_part
      fun a m t h => ih a (hc.2 a) h
    cases tapped <;> exact hrest
  | yield next ih => exact hyield h fun r m t h => ih r (hc r) h
  | invoke call inner next _ ih =>
    have hrest := (follows.invoke (p := ⟨inner, tapped⟩) hc.1 hc.2.1 h).andThen_part
      fun r m t h => ih r (hc.2.2 r) h
    cases tapped <;> exact hrest

theorem runPlain {c : Content} (hc : c.Avoids tap.slot calls) (h : m.Twin tap calls old t) :
    (o.runContent tap false (.pure (.ok "")) c m).Tells tap calls old (e.runContent c m.state)
      (e.runContent c t) :=
  follows.runContent false hc (fun h hnext => hnext _ _ _ h) h

/-- The tap evaluates what is behind it as a run without a tap does, and writes to the slot. -/
theorem evaluate (hinner : tap.inner.Avoids tap.slot calls) (h : m.Twin tap calls old t) :
    (o.evaluate tap m).Tells tap calls old (e.runContent tap.outer m.state)
      (e.runContent tap.inner t) := by
  rw [tap.run_outer, ← Option.bind_fun_some (e.runContent tap.inner t)]
  refine (follows.runPlain hinner h).andThen fun result m t h => ?_
  cases result with
  | error error => exact .pure rfl h
  | ok text =>
    refine .step rfl { h with slots := ?_, text := ?_ }
    · intro name hname
      exact (State.slot_writeSlot _ _ _ _).trans ((if_neg hname.symm).trans (h.slots name hname))
    · exact (State.slot_writeSlot _ _ _ _).trans (if_pos rfl)

theorem runPart (hinner : tap.inner.Avoids tap.slot calls) {p : Part}
    (hp : p.content.Avoids tap.slot calls) (h : m.Twin tap calls old t) :
    (o.runPart tap p m).Tells tap calls old (e.runContent (p.fill tap.outer) m.state)
      (e.runContent (p.fill tap.inner) t) := by
  obtain ⟨c, tapped⟩ := p
  cases tapped with
  | false => exact follows.runPlain hp h
  | true =>
    refine follows.runContent true hp (fun {next m t} h hnext => ?_) h
    have hfill : ∀ inner s, e.runContent (Part.fill inner ⟨.yield next, true⟩) s =
        (e.runContent inner s).bind fun out =>
          e.runContent (Part.fill inner ⟨next out.1, true⟩) out.2 :=
      fun inner s => e.runContent_andThen inner _ s
    rw [hfill, hfill]
    exact (follows.evaluate hinner h).andThen_part hnext

theorem runDrain (hinner : tap.inner.Avoids tap.slot calls) {position : Nat} {buffer : String}
    (h : m.Twin tap calls old t) :
    (o.runDrain tap position buffer m).Tells tap calls old
      ((e.runDrain position buffer m.state).map fun out => ((out.1, out.2.1), out.2.2))
      ((e.runDrain position buffer t).map fun out => ((out.1, out.2.1), out.2.2)) := by
  unfold Observer.runDrain Engine.runDrain
  obtain ⟨hnone, hnone'⟩ | ⟨w, ws, s, t', hw, hnext, hnext', hp, hs⟩ := h.next?
  · rw [hnone, hnone']
    exact .step rfl h.finishDrain
  · rw [hnext, hnext', hw]
    refine .step_andThen hs ?_
    simp only [Option.bind_eq_bind, Option.map_bind]
    refine (follows.runPart hinner hp hs).andThen fun result m t h => ?_
    cases result with
    | error error => exact .step rfl (h.abandon _)
    | ok text =>
      obtain ⟨hbuffer, hsub⟩ := h.substitute (w.pending tap.outer) (w.pending tap.inner) rfl rfl
        text buffer
      have hrest : (o.drain (position + 1) (m.state.substitute (w.pending tap.outer) text buffer).1
          (m.goto (m.state.substitute (w.pending tap.outer) text buffer).2)).Tells tap calls old
          (e.drained (position + 1) (m.state.substitute (w.pending tap.outer) text buffer).1
            (m.state.substitute (w.pending tap.outer) text buffer).2)
          (e.drained (position + 1) (t.substitute (w.pending tap.inner) text buffer).1
            (t.substitute (w.pending tap.inner) text buffer).2) := by
        rw [← hbuffer]
        exact follows.drain hsub
      exact .step_andThen hsub hrest

theorem runSettle (h : m.Twin tap calls old t) :
    (o.runSettle m).Tells tap calls old (e.runSettle m.state) (e.runSettle t) := by
  unfold Observer.runSettle Engine.runSettle
  refine (follows.flushBuffer h).andThen fun result m t h => ?_
  cases result with
  | error error => exact .pure rfl h
  | ok _ =>
    have hempty : m.state.request.queue.isEmpty = t.request.queue.isEmpty := by
      rw [h.request, Queue.isEmpty, Queue.isEmpty, h.pending, List.isEmpty_map, List.isEmpty_map]
    simp only [h.buffer, hempty]
    split
    next => exact .pure rfl h
    next => exact follows.settle h

theorem act (hinner : tap.inner.Avoids tap.slot calls) {a : Action}
    (ha : a.Avoids tap.slot calls) (h : m.Twin tap calls old t) :
    (o.act tap a m).Tells tap calls old (e.act a m.state) (e.act a t) := by
  cases a with
  | print text => exact .step rfl (h.print text)
  | defer producer =>
    exact (tells_defer (p := ⟨producer, false⟩) ha h).andThen
      (f := fun out => some (out.1.map Marker.text, out.2))
      (g := fun out => some (out.1.map Marker.text, out.2)) fun _ _ _ h => .pure rfl h
  | render filters content =>
    exact follows.runPart hinner (p := ⟨_, false⟩) (Filter.avoids_compose ha.1 ha.2) h
  | filter filters content =>
    have hrun := follows.runPart hinner (p := ⟨_, false⟩) (Filter.avoids_compose ha.1 ha.2) h
    simp only [Engine.act, Option.map_eq_bind]
    exact hrun.andThen fun _ _ _ h => tells_printResult h
  | pipe list text =>
    have hrun := follows.invoke (p := ⟨.literal text, false⟩) ha trivial h
    simp only [Engine.act, Option.map_eq_bind]
    exact hrun.andThen fun _ _ _ h => tells_printResult h
  | flushBuffer =>
    exact (follows.flushBuffer h).andThen (f := fun out => some (out.1.map fun () => "", out.2))
      (g := fun out => some (out.1.map fun () => "", out.2)) fun _ _ _ h => .pure rfl h
  | flushDeferred buffer => exact follows.flushDeferred buffer h
  | finish => exact follows.finish h

theorem actAll (hinner : tap.inner.Avoids tap.slot calls) {as : List Action}
    (has : ∀ a ∈ as, a.Avoids tap.slot calls) (h : m.Twin tap calls old t) :
    (o.actAll tap as m).Tells tap calls old (e.actAll as m.state) (e.actAll as t) := by
  induction as generalizing m t with
  | nil => exact .pure rfl h
  | cons a as ih =>
    refine (follows.act hinner (has a List.mem_cons_self) h).andThen fun r m t h => ?_
    exact (ih (fun a ha => has a (List.mem_cons_of_mem _ ha)) h).andThen
      fun rs m t h => .pure rfl h

end Follows

theorem follows_ofFuel (hinner : tap.inner.Avoids tap.slot calls) (fuel : Nat) :
    (ofFuel tap fuel).Follows tap calls old (.ofFuel fuel) := by
  -- Drains and nested renderings run on less fuel, so that they may be taken to follow.
  induction fuel with
  | zero => exact ⟨fun _ _ => .none, fun _ => .none, fun _ => .none⟩
  | succ fuel ih => exact ⟨ih.runPart hinner, ih.runDrain hinner, ih.runSettle⟩

end Observer

theorem Moment.twin_first (tap : Tap) {s : State} (hs : s.Avoids tap.slot calls) :
    (Moment.first s).Twin tap calls (s.slot tap.slot) s := by
  have hsame : ∀ inner, s.request.queue.pending =
      (Moment.first s).waiting.map (Waiting.pending inner) := by
    intro inner
    rw [Moment.first, List.map_map]
    exact (List.map_id' _).symm
  exact {
    request := by
      rw [← hsame]
      rfl
    pending := hsame _
    cache := rfl
    journal := rfl
    slots := fun _ _ => rfl
    text := rfl
    waiting := by
      intro w hw
      obtain ⟨p, hp, rfl⟩ := List.mem_map.mp hw
      exact hs.pending p hp
    filters := hs.filters }

/-- Nothing but the text of a slot tells the states apart, as far as can be seen from outside. -/
structure State.AgreesBut (slot : String) (s t : State) : Prop where
  snapshot : s.request.snapshot = t.request.snapshot
  cache : s.cache = t.cache
  journal : s.journal = t.journal
  slots : ∀ name, name ≠ slot → s.slot name = t.slot name

theorem Moment.Twin.agrees {m : Moment} {t : State} (h : m.Twin tap calls old t) :
    m.state.AgreesBut tap.slot t := ⟨h.snapshot, h.cache, h.journal, h.slots⟩

theorem Trace.Tells.agrees {α : Type} {tr : Trace α} {out out' : Option (α × State)}
    (h : tr.Tells tap calls old out out') :
    Option.Rel (fun o o' => o.1 = o'.1 ∧ o.2.AgreesBut tap.slot o'.2) out out' := by
  obtain ⟨passed, ended⟩ := tr
  obtain ⟨rfl, _, htwin⟩ := h
  cases htwin with
  | none => exact .none
  | some hlast => exact .some ⟨hlast.1, hlast.2.agrees⟩

/-- The run that is watched is that of the filters with the `Tee` among them. -/
theorem Tap.watch_tells {slot : String} {fs gs : List Filter} {c : Content} {s : State}
    {as : List Action} (hfs : ∀ f ∈ fs, f.Avoids slot calls) (hgs : ∀ f ∈ gs, f.Avoids slot calls)
    (hc : c.Avoids slot calls) (hs : s.Avoids slot calls) (has : ∀ a ∈ as, a.Avoids slot calls)
    (fuel : Nat) :
    (watch ⟨slot, Filter.compose gs c⟩ fuel fs as s).Tells ⟨slot, Filter.compose gs c⟩ calls
      (s.slot slot) ((Engine.ofFuel fuel).actAll (.render (fs ++ [.tee slot] ++ gs) c :: as) s)
      ((Engine.ofFuel fuel).actAll (.render (fs ++ gs) c :: as) s) := by
  have hinner := Filter.avoids_compose hgs hc
  have hbody : (Filter.compose fs (.yield .done)).Avoids slot calls :=
    Filter.avoids_compose hfs fun _ => trivial
  have follows : (Observer.ofFuel ⟨slot, Filter.compose gs c⟩ fuel).Follows
      ⟨slot, Filter.compose gs c⟩ calls (s.slot slot) (.ofFuel fuel) :=
    Observer.follows_ofFuel hinner fuel
  have hfirst := Moment.twin_first ⟨slot, Filter.compose gs c⟩ hs
  have houter : Filter.compose (fs ++ [.tee slot] ++ gs) c =
      .fill (Tap.outer ⟨slot, Filter.compose gs c⟩) (Filter.compose fs (.yield .done)) := by
    rw [List.append_assoc, Filter.compose_append]
    rfl
  simp only [Engine.actAll, Engine.act, houter, Filter.compose_append]
  refine .step_andThen hfirst ?_
  refine (follows.runPart hinner (p := ⟨_, true⟩) hbody hfirst).andThen fun r m t h => ?_
  exact (follows.actAll hinner has h).andThen fun rs m t h => .pure rfl h

/-- A `Tee` anywhere in a list of filters changes nothing but its slot, neither while the content is
rendered nor in any call on the request afterwards, if nothing else cares for the slot. At any
moment the slot holds the text that the filters behind the `Tee` gave last, if they gave any. -/
theorem Filter.tee_transparent {slot : String} {fs gs : List Filter} {c : Content} {s : State}
    {as : List Action} (hfs : ∀ f ∈ fs, f.Avoids slot calls) (hgs : ∀ f ∈ gs, f.Avoids slot calls)
    (hc : c.Avoids slot calls) (hs : s.Avoids slot calls) (has : ∀ a ∈ as, a.Avoids slot calls)
    (fuel : Nat) :
    Option.Rel (fun out out' => out.1 = out'.1 ∧ out.2.AgreesBut slot out'.2)
      ((Engine.ofFuel fuel).actAll (.render (fs ++ [tee slot] ++ gs) c :: as) s)
      ((Engine.ofFuel fuel).actAll (.render (fs ++ gs) c :: as) s) ∧
    (Tap.watch ⟨slot, compose gs c⟩ fuel fs as s).ended.map
      (fun last => (last.1, last.2.state)) =
        (Engine.ofFuel fuel).actAll (.render (fs ++ [tee slot] ++ gs) c :: as) s ∧
    ∀ m ∈ (Tap.watch ⟨slot, compose gs c⟩ fuel fs as s).passed,
      m.state.slot slot = m.texts.headD (s.slot slot) := by
  have htells := Tap.watch_tells hfs hgs hc hs has fuel
  exact ⟨htells.agrees, htells.outcome, htells.passed⟩

/-- A `Tee` between other filters under a deferral. The content behind it prints, and is rendered
twice when the request finishes. -/
theorem Filter.tee_transparent_deferred :
    ∃ s s', (Engine.ofFuel 5).actAll
        [.render ([deferred, repeated 2] ++ [tee "s"] ++ [tee "t"])
          (.perform (.print "b") fun _ => .literal "a"), .finish]
        { request := { filters := .standard, markers := .listed [] 0 } } =
          some ([.ok "#1", .ok "bb"], s) ∧
      (Engine.ofFuel 5).actAll
        [.render ([deferred, repeated 2] ++ [tee "t"])
          (.perform (.print "b") fun _ => .literal "a"), .finish]
        { request := { filters := .standard, markers := .listed [] 0 } } =
          some ([.ok "#1", .ok "bb"], s') ∧
      s.AgreesBut "s" s' ∧ s.slot "s" = "a" ∧ s'.slot "s" = "" := by
  have hfs : ∀ f ∈ [deferred, repeated 2], f.Avoids "s" fun _ => True := by
    intro f hf
    simp only [List.mem_cons, List.not_mem_nil, or_false] at hf
    rcases hf with rfl | rfl
    · exact avoids_deferred
    · exact avoids_repeated 2
  have hgs : ∀ f ∈ [tee "t"], f.Avoids "s" fun _ => True := by
    intro f hf
    rw [List.mem_singleton.mp hf]
    exact avoids_tee (by decide)
  have hc : (Content.perform (.print "b") fun _ => .literal "a").Avoids "s" fun _ => True :=
    ⟨trivial, fun _ => trivial⟩
  have hs : State.Avoids "s" (fun _ => True)
      { request := { filters := .standard, markers := .listed [] 0 } } :=
    ⟨Registry.standard_avoids, nofun⟩
  have has : ∀ a ∈ [Action.finish], a.Avoids "s" fun _ => True := by
    intro a ha
    rw [List.mem_singleton.mp ha]
    trivial
  have hrel := (tee_transparent hfs hgs hc hs has 5).1
  obtain ⟨s, hrun, hslot⟩ : ∃ s, (Engine.ofFuel 5).actAll
      [.render ([deferred, repeated 2] ++ [tee "s"] ++ [tee "t"])
        (.perform (.print "b") fun _ => .literal "a"), .finish]
      { request := { filters := .standard, markers := .listed [] 0 } } =
        some ([.ok "#1", .ok "bb"], s) ∧ s.slot "s" = "a" := ⟨_, rfl, by decide⟩
  obtain ⟨s', hrun', hslot'⟩ : ∃ s', (Engine.ofFuel 5).actAll
      [.render ([deferred, repeated 2] ++ [tee "t"])
        (.perform (.print "b") fun _ => .literal "a"), .finish]
      { request := { filters := .standard, markers := .listed [] 0 } } =
        some ([.ok "#1", .ok "bb"], s') ∧ s'.slot "s" = "" := ⟨_, rfl, by decide⟩
  rw [hrun, hrun'] at hrel
  cases hrel with
  | some h => exact ⟨s, s', hrun, hrun', h.2, hslot, hslot'⟩

end PageFilters
