import PageFilters.Proofs.Item
import PageFilters.Proofs.Passes

namespace PageFilters

/-- Whether the step runs what waits. -/
def Op.drains : Op → Bool
  | flushBuffer => true
  | flushDeferred _ => true
  | finish => true
  | _ => false

/-- Neither the content nor a producer that it registers flushes or finishes the request, whatever
its steps answer. -/
def Content.Quiet : Content → Prop
  | done _ => True
  | perform op next => op.drains = false ∧ ∀ a, (next a).Quiet
  | defer producer next => producer.Quiet ∧ ∀ a, (next a).Quiet
  | yield next => ∀ r, (next r).Quiet
  | invoke _ inner next => inner.Quiet ∧ ∀ r, (next r).Quiet

def Filter.Quiet : Filter → Prop
  | simple _ => True
  | dynamic body => body.Quiet

def Registry.Quiet (r : Registry) : Prop :=
  ∀ call filters, r.resolve call = .ok filters → ∀ f ∈ filters, f.Quiet

/-- No producer that waits flushes or finishes the request, and no filter in use does. -/
structure State.Quiet (s : State) : Prop where
  filters : s.request.filters.Quiet
  pending : ∀ p ∈ s.request.queue.pending, p.producer.Quiet

namespace Content.Quiet

theorem andThen {c : Content} {k : RenderResult → Content} (h : c.Quiet) (hk : ∀ r, (k r).Quiet) :
    (c.andThen k).Quiet := by
  induction c with
  | done result => exact hk result
  | perform op next ih => exact ⟨h.1, fun a => ih a (h.2 a)⟩
  | defer producer next _ ih => exact ⟨h.1, fun a => ih a (h.2 a)⟩
  | yield next ih => exact fun r => ih r (h r)
  | invoke call inner next _ ih => exact ⟨h.1, fun r => ih r (h.2 r)⟩

theorem fill {inner body : Content} (h : body.Quiet) (hinner : inner.Quiet) :
    (Content.fill inner body).Quiet := by
  induction body with
  | done result => trivial
  | perform op next ih => exact ⟨h.1, fun a => ih a (h.2 a)⟩
  | defer producer next ihproducer ih => exact ⟨ihproducer h.1, fun a => ih a (h.2 a)⟩
  | yield next ih => exact hinner.andThen fun r => ih r (h r)
  | invoke call content next ihcontent ih => exact ⟨ihcontent h.1, fun r => ih r (h.2 r)⟩

end Content.Quiet

namespace Filter

theorem Quiet.wrap {f : Filter} {c : Content} (h : f.Quiet) (hc : c.Quiet) : (f.wrap c).Quiet := by
  cases f with
  | simple apply =>
    refine hc.andThen fun r => ?_
    cases r <;> trivial
  | dynamic body => exact h.fill hc

theorem quiet_compose {fs : List Filter} {c : Content} (h : ∀ f ∈ fs, f.Quiet) (hc : c.Quiet) :
    (compose fs c).Quiet := by
  induction fs with
  | nil => exact hc
  | cons f fs ih =>
    rw [compose_cons]
    exact (h f List.mem_cons_self).wrap (ih fun g hg => h g (List.mem_cons_of_mem f hg))

theorem quiet_repeatBody (n : Nat) (output : String) : (repeatBody n output).Quiet := by
  induction n generalizing output with
  | zero => trivial
  | succ n ih =>
    intro r
    cases r with
    | ok text => exact ih _
    | error error => trivial

end Filter

/-- The filters of the standard registry neither flush nor finish a request. -/
theorem Registry.standard_quiet : standard.Quiet := by
  intro call filters h f hf
  have hitems := standard_resolve call
  rw [h] at hitems
  obtain ⟨items, _, rfl⟩ := Option.map_eq_some_iff.mp hitems.symm
  obtain ⟨i, _, rfl⟩ := List.mem_map.mp hf
  cases i with
  | rewrite r => trivial
  | repeated n => exact Filter.quiet_repeatBody n ""
  | cached key ttl =>
    refine ⟨rfl, fun found => ?_⟩
    cases found with
    | some hit => trivial
    | none =>
      intro r
      cases r with
      | ok text => exact ⟨rfl, fun _ => trivial⟩
      | error error => trivial
  | deferred =>
    refine ⟨fun r => trivial, fun a => ?_⟩
    cases a <;> trivial

namespace State.Quiet

variable {s s' : State}

theorem of_request (hs : s.Quiet) (hfilters : s'.request.filters = s.request.filters)
    (hq : s'.request.queue.pending = s.request.queue.pending) : s'.Quiet :=
  ⟨hfilters ▸ hs.filters, hq ▸ hs.pending⟩

theorem defer (hs : s.Quiet) {producer : Content} (h : producer.Quiet) :
    (s.defer producer).2.Quiet := by
  obtain ⟨_, hdefer⟩ | ⟨_, marker, markers, _, hdefer⟩ := s.defer_cases producer
  · rw [hdefer]
    exact hs
  · rw [hdefer]
    refine ⟨hs.filters, fun p hp => ?_⟩
    rcases List.mem_append.mp hp with hp | hp
    · exact hs.pending p hp
    · rw [List.mem_singleton.mp hp]
      exact h

theorem resolve (hs : s.Quiet) (call : Call) : (s.resolve call).2.Quiet := by
  have hrequest := resolve_keeps request (fun _ _ => rfl) s call
  exact hs.of_request (by rw [hrequest]) (by rw [hrequest])

theorem start (hs : s.Quiet) {p : Pending} {rest : List Pending}
    (hq : s.request.queue.pending = p :: rest) : (s.start p rest).Quiet :=
  ⟨hs.filters, fun o ho => hs.pending o (hq ▸ List.mem_cons_of_mem p ho)⟩

theorem substitute (hs : s.Quiet) (p : Pending) (text buffer : String) :
    (s.substitute p text buffer).2.Quiet := by
  obtain ⟨event, hrecord⟩ := s.substitute_snd p text buffer
  rw [hrecord]
  exact hs.of_request rfl rfl

end State.Quiet

theorem Engine.perform_not_drains (e : Engine) {op : Op} (h : op.drains = false) (s : State) :
    e.perform op s = (ofFuel 0).perform op s := by
  cases op with
  | flushBuffer => cases h
  | flushDeferred buffer => cases h
  | finish => cases h
  | _ => rfl

namespace Content.Quiet

variable {s s' : State} {r : RenderResult}

theorem prints_of_render {e : Engine} {c : Content}
    (hrender : ∀ c s r s', c.Quiet → s.Quiet → e.render c s = some (r, s') →
      ∃ text, c.Prints s text r s' ∧ s'.Quiet)
    (hc : c.Quiet) (hs : s.Quiet) (h : e.runContent c s = some (r, s')) :
    ∃ text, c.Prints s text r s' ∧ s'.Quiet := by
  induction c generalizing s with
  | done result =>
    cases h
    exact ⟨_, .done, hs⟩
  | perform op next ih =>
    obtain ⟨⟨answer, s₁⟩, hop, h⟩ := Option.bind_eq_some_iff.mp h
    rw [e.perform_not_drains hc.1] at hop
    have hrequest := Engine.perform_request hop
    obtain ⟨text, hprints, hs'⟩ :=
      ih answer (hc.2 answer) (hs.of_request (by rw [hrequest]) (by rw [hrequest])) h
    exact ⟨_, .perform hop hprints, hs'⟩
  | defer producer next _ ih =>
    obtain ⟨text, hprints, hs'⟩ := ih _ (hc.2 _) (hs.defer hc.1) h
    exact ⟨_, .defer hprints, hs'⟩
  | yield next ih =>
    obtain ⟨text, hprints, hs'⟩ := ih _ (hc _) hs h
    exact ⟨_, .yield hprints, hs'⟩
  | invoke call inner next _ ih =>
    obtain ⟨⟨result, s₂⟩, hcall, h⟩ := Option.bind_eq_some_iff.mp h
    have hresolved := hs.resolve call
    unfold Engine.invoke at hcall
    split at hcall
    next filters s₁ heq =>
      rw [heq] at hresolved
      have hfilters := hs.filters call filters (congrArg Prod.fst heq)
      obtain ⟨text, hinner, hs₂⟩ :=
        hrender _ _ _ _ (Filter.quiet_compose hfilters hc.1) hresolved hcall
      obtain ⟨text', hprints, hs'⟩ := ih result (hc.2 result) hs₂ h
      exact ⟨_, .invoke heq hinner hprints, hs'⟩
    next error s₁ heq =>
      rw [heq] at hresolved
      cases hcall
      obtain ⟨text, hprints, hs'⟩ := ih _ (hc.2 _) hresolved h
      exact ⟨_, .refused heq hprints, hs'⟩

/-- Quiet content only prints and registers quiet producers, as far as the request goes. -/
theorem prints {fuel : Nat} {c : Content} (hc : c.Quiet) (hs : s.Quiet)
    (h : (Engine.ofFuel fuel).runContent c s = some (r, s')) :
    ∃ text, c.Prints s text r s' ∧ s'.Quiet := by
  induction fuel generalizing c s r s' with
  | zero =>
    refine prints_of_render (fun c s r s' _ _ hrender => ?_) hc hs h
    cases hrender
  | succ fuel ih =>
    exact prints_of_render (fun _ _ _ _ hc hs hrender => ih hc hs hrender) hc hs h

end Content.Quiet

namespace State.Quiet

variable {s s' : State}

/-- A drain that ends has gone through the turns of all producers, or broken off. -/
theorem drain {fuel position : Nat} {buffer buffer' : String} {r : Except RenderError Unit}
    (hs : s.Quiet) (h : (Engine.ofFuel fuel).drain position buffer s = some (r, buffer', s')) :
    (r = .ok () ∧ ∃ turns printed s₁, Pass s buffer turns printed s₁ ∧
      s₁.request.queue.pending = []) ∨
    ∃ turns p error printed s₁, r = .error (.deferredProducer p.marker (position + turns.length)
      error) ∧ Breaks s buffer turns p error printed s₁ := by
  induction fuel generalizing position buffer s with
  | zero => cases h
  | succ fuel ih =>
    change (Engine.ofFuel fuel).runDrain position buffer s = _ at h
    unfold Engine.runDrain at h
    obtain ⟨hnil, hnext⟩ | ⟨p, rest, hq, hnext⟩ := s.next?_cases
    · rw [hnext] at h
      cases h
      exact .inl ⟨rfl, [], "", s, .nil, hnil⟩
    · rw [hnext] at h
      obtain ⟨⟨result, s₁⟩, hrun, h⟩ := Option.bind_eq_some_iff.mp h
      have hp : p.producer.Quiet := hs.pending p (hq ▸ List.mem_cons_self)
      obtain ⟨words, hprints, hs₁⟩ := hp.prints (hs.start hq) hrun
      cases result with
      | ok text =>
        rcases ih (hs₁.substitute p text buffer) h with
          ⟨hr, turns, printed, s₂, hpass, hempty⟩ | ⟨turns, q, error, printed, s₂, hr, hbreaks⟩
        · exact .inl ⟨hr, _, _, s₂, .cons hq hprints hpass, hempty⟩
        · obtain ⟨hpass, hq', hrun'⟩ := hbreaks
          refine .inr ⟨_, q, error, _, s₂, ?_, .intro (.cons hq hprints hpass) hq' hrun'⟩
          rw [hr, List.length_cons, Nat.add_assoc, Nat.add_comm 1]
      | error error =>
        cases h
        exact .inr ⟨[], p, error, _, s₁, rfl, .intro .nil hq hprints⟩

theorem flush {fuel : Nat} {r : Except RenderError Unit} (hs : s.Quiet)
    (h : (Engine.ofFuel fuel).flushBuffer s = some (r, s')) :
    (r = .ok () ∧ ∃ turns printed s₁, Pass { s with request.buffer := "" } s.request.buffer turns
      printed s₁ ∧ s₁.request.queue.pending = []) ∨
    ∃ turns p error printed s₁, r = .error (.deferredProducer p.marker turns.length error) ∧
      Breaks { s with request.buffer := "" } s.request.buffer turns p error printed s₁ := by
  obtain ⟨⟨result, buffer, s₁⟩, hdrain, h⟩ := Option.bind_eq_some_iff.mp h
  have hr : r = result := by
    cases result with
    | ok _ =>
      cases h
      rfl
    | error error =>
      cases h
      rfl
  rw [hr]
  have hunload : State.Quiet { s with request.buffer := "" } := hs.of_request rfl rfl
  simpa only [Nat.zero_add] using hunload.drain hdrain

end State.Quiet

end PageFilters
