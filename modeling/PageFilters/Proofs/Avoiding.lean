import PageFilters.Proofs.Item
import PageFilters.Proofs.Lifecycle

namespace PageFilters

/-- Whether the step neither reads nor writes a slot. -/
def Op.Avoids (slot : String) : Op → Prop
  | readSlot name => name ≠ slot
  | writeSlot name _ => name ≠ slot
  | _ => True

/-- Neither the content nor a producer that it registers reads or writes the slot, whatever its
steps answer, and the calls they make are among those given. -/
def Content.Avoids (slot : String) (calls : Call → Prop) : Content → Prop
  | done _ => True
  | perform op next => op.Avoids slot ∧ ∀ a, (next a).Avoids slot calls
  | defer producer next => producer.Avoids slot calls ∧ ∀ a, (next a).Avoids slot calls
  | yield next => ∀ r, (next r).Avoids slot calls
  | invoke call inner next =>
    calls call ∧ inner.Avoids slot calls ∧ ∀ r, (next r).Avoids slot calls

def Filter.Avoids (slot : String) (calls : Call → Prop) : Filter → Prop
  | simple _ => True
  | dynamic body => body.Avoids slot calls

/-- No filter that one of the calls resolves to reads or writes the slot, or makes other calls. -/
def Registry.Avoids (slot : String) (calls : Call → Prop) (r : Registry) : Prop :=
  ∀ call filters, calls call → r.resolve call = .ok filters → ∀ f ∈ filters, f.Avoids slot calls

/-- No producer that waits reads or writes the slot, and no filter in use that it may call. -/
structure State.Avoids (slot : String) (calls : Call → Prop) (s : State) : Prop where
  filters : s.request.filters.Avoids slot calls
  pending : ∀ p ∈ s.request.queue.pending, p.producer.Avoids slot calls

def Action.Avoids (slot : String) (calls : Call → Prop) : Action → Prop
  | defer producer => producer.Avoids slot calls
  | render filters content => (∀ f ∈ filters, f.Avoids slot calls) ∧ content.Avoids slot calls
  | filter filters content => (∀ f ∈ filters, f.Avoids slot calls) ∧ content.Avoids slot calls
  | pipe list _ => calls (.piped list)
  | _ => True

section Avoids

variable {slot : String} {calls : Call → Prop}

theorem Content.Avoids.andThen {c : Content} {k : RenderResult → Content}
    (h : c.Avoids slot calls) (hk : ∀ r, (k r).Avoids slot calls) :
    (c.andThen k).Avoids slot calls := by
  induction c with
  | done result => exact hk result
  | perform op next ih => exact ⟨h.1, fun a => ih a (h.2 a)⟩
  | defer producer next _ ih => exact ⟨h.1, fun a => ih a (h.2 a)⟩
  | yield next ih => exact fun r => ih r (h r)
  | invoke call inner next _ ih => exact ⟨h.1, h.2.1, fun r => ih r (h.2.2 r)⟩

theorem Content.Avoids.fill {inner body : Content} (h : body.Avoids slot calls)
    (hinner : inner.Avoids slot calls) : (Content.fill inner body).Avoids slot calls := by
  induction body with
  | done result => trivial
  | perform op next ih => exact ⟨h.1, fun a => ih a (h.2 a)⟩
  | defer producer next ihproducer ih => exact ⟨ihproducer h.1, fun a => ih a (h.2 a)⟩
  | yield next ih => exact hinner.andThen fun r => ih r (h r)
  | invoke call content next ihcontent ih =>
    exact ⟨h.1, ihcontent h.2.1, fun r => ih r (h.2.2 r)⟩

theorem Filter.Avoids.wrap {f : Filter} {c : Content} (h : f.Avoids slot calls)
    (hc : c.Avoids slot calls) : (f.wrap c).Avoids slot calls := by
  cases f with
  | simple apply =>
    refine hc.andThen fun r => ?_
    cases r <;> trivial
  | dynamic body => exact h.fill hc

theorem Filter.avoids_compose {fs : List Filter} {c : Content}
    (h : ∀ f ∈ fs, f.Avoids slot calls) (hc : c.Avoids slot calls) :
    (compose fs c).Avoids slot calls := by
  induction fs with
  | nil => exact hc
  | cons f fs ih =>
    rw [compose_cons]
    exact (h f List.mem_cons_self).wrap (ih fun g hg => h g (List.mem_cons_of_mem f hg))

namespace Filter

theorem avoids_repeated (n : Nat) : (repeated n).Avoids slot calls := by
  have hbody : ∀ n output, (repeatBody n output).Avoids slot calls := by
    intro n
    induction n with
    | zero => exact fun _ => trivial
    | succ n ih =>
      intro output r
      cases r with
      | ok text => exact ih _
      | error error => trivial
  exact hbody n ""

theorem avoids_cached (key : String) (ttl : Option Nat) : (cached key ttl).Avoids slot calls := by
  refine ⟨trivial, fun found => ?_⟩
  cases found with
  | some hit => trivial
  | none =>
    intro r
    cases r with
    | ok text => exact ⟨trivial, fun _ => trivial⟩
    | error error => trivial

theorem avoids_deferred : deferred.Avoids slot calls := by
  refine ⟨fun r => trivial, fun a => ?_⟩
  cases a <;> trivial

theorem avoids_tee {name : String} (h : name ≠ slot) : (tee name).Avoids slot calls := by
  intro r
  cases r with
  | ok text => exact ⟨h, fun _ => trivial⟩
  | error error => trivial

end Filter

/-- The filters that every template may use have nothing to do with slots. -/
theorem Registry.standard_avoids : standard.Avoids slot calls := by
  intro call filters _ h f hf
  have hitems := standard_resolve call
  rw [h] at hitems
  obtain ⟨items, _, rfl⟩ := Option.map_eq_some_iff.mp hitems.symm
  obtain ⟨i, _, rfl⟩ := List.mem_map.mp hf
  cases i with
  | rewrite r => trivial
  | repeated n => exact Filter.avoids_repeated n
  | cached key ttl => exact Filter.avoids_cached key ttl
  | deferred => exact Filter.avoids_deferred

end Avoids

namespace Content

theorem andThen_assoc (c : Content) (k l : RenderResult → Content) :
    (c.andThen k).andThen l = c.andThen fun r => (k r).andThen l := by
  induction c with
  | done result => rfl
  | perform op next ih => simp only [andThen, ih]
  | defer producer next _ ih => simp only [andThen, ih]
  | yield next ih => simp only [andThen, ih]
  | invoke call inner next _ ih => simp only [andThen, ih]

theorem fill_andThen (inner c : Content) (k : RenderResult → Content) :
    fill inner (c.andThen k) = (fill inner c).andThen fun r => fill inner (k r) := by
  induction c with
  | done result => rfl
  | perform op next ih => simp only [andThen, fill, ih]
  | defer producer next _ ih => simp only [andThen, fill, ih]
  | yield next ih => simp only [andThen, fill, ih, andThen_assoc]
  | invoke call content next _ ih => simp only [andThen, fill, ih]

/-- Filling a body with content that is filled itself. -/
theorem fill_fill (inner middle body : Content) :
    fill inner (fill middle body) = fill (fill inner middle) body := by
  induction body with
  | done result => rfl
  | perform op next ih => simp only [fill, ih]
  | defer producer next ihproducer ih => simp only [fill, ih, ihproducer]
  | yield next ih => simp only [fill, fill_andThen, ih]
  | invoke call content next ihcontent ih => simp only [fill, ih, ihcontent]

end Content

namespace Filter

theorem fill_wrap (inner : Content) (f : Filter) (body : Content) :
    Content.fill inner (f.wrap body) = f.wrap (Content.fill inner body) := by
  cases f with
  | simple apply =>
    simp only [wrap, Content.bind, Content.fill_andThen]
    congr 1
    funext r
    cases r <;> rfl
  | dynamic content => exact Content.fill_fill inner body content

theorem fill_compose (inner : Content) (fs : List Filter) (body : Content) :
    Content.fill inner (compose fs body) = compose fs (Content.fill inner body) := by
  induction fs with
  | nil => rfl
  | cons f fs ih => rw [compose_cons, compose_cons, fill_wrap, ih]

/-- The filters of the front part of a list as a body around the rest. -/
theorem compose_append (fs gs : List Filter) (c : Content) :
    compose (fs ++ gs) c = Content.fill (compose gs c) (compose fs (.yield .done)) := by
  rw [fill_compose, compose, List.foldr_append]
  simp only [Content.fill, Content.andThen_done]
  rfl

end Filter

end PageFilters
