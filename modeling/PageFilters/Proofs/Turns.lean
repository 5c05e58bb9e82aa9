import PageFilters.Proofs.Changes
import PageFilters.Proofs.Occurrence

namespace PageFilters

/-- A producer that ran in a drain and returned. -/
structure Turn where
  entry : Pending
  text : String
  /-- The state in which the producer started. -/
  start : State
  /-- The state in which it returned. -/
  stop : State

namespace Turn

/-- The producer left those that waited where they were. -/
def Leaves (t : Turn) : Prop := t.start.request.queue.pending <+: t.stop.request.queue.pending

/-- A buffer after the turn: the text stands where the marker stood first, if it did. -/
def fill (buffer : String) (t : Turn) : String :=
  (Text.substituteFirst t.entry.marker.text t.text buffer).getD buffer

end Turn

/-- A drain into a buffer in which every producer returned, with its turns, the buffer it left and
the state it ended in. -/
inductive Drained : State → String → List Turn → String → State → Prop
  | nil {s : State} {buffer : String} (h : s.request.queue.pending = []) :
      Drained s buffer [] buffer s.finishDrain
  | cons {s s' s'' : State} {p : Pending} {rest : List Pending} {fuel : Nat}
      {text buffer buffer' : String} {turns : List Turn}
      (hq : s.request.queue.pending = p :: rest)
      (hrun : (Engine.ofFuel fuel).runContent p.producer (s.start p rest) = some (.ok text, s'))
      (h : Drained (s'.substitute p text buffer).2 (s'.substitute p text buffer).1 turns buffer'
        s'') : Drained s buffer (⟨p, text, s.start p rest, s'⟩ :: turns) buffer' s''

/-- The events tell what became of a producer that waited. -/
def Pending.Gone (p : Pending) (events : List Event) : Prop :=
  .started p.ticket ∈ events ∨ .discarded p.ticket ∈ events

/-- What a flush that succeeds has done with those that waited. -/
structure Resolves (s : State) (buffer : String) (turns : List Turn) (text : String)
    (s' : State) : Prop where
  drained : Drained s buffer turns text s'
  gone : ∃ events, s'.journal = events ++ s.journal ∧
    ∀ p ∈ s.request.queue.pending, p.Gone events
  /-- Each had its turn, unless one took others away that waited behind it. -/
  turns_iff : s.request.queue.pending <+: turns.map Turn.entry ↔
    ∀ t ∈ turns.take (s.request.queue.pending.length - 1), t.Leaves
  /-- The text of a turn stands where its marker stood in the buffer, if that is the only place
  where the marker stands by then. -/
  replaced : ∀ (before after : List Turn) (t : Turn) (x y : String),
    turns = before ++ t :: after → buffer = x ++ t.entry.marker.text ++ y →
    (∀ u ∈ before, u.entry.marker.Apart t.entry.marker) →
    t.entry.marker.Single (before.foldl Turn.fill buffer) →
    ∃ left right : List Turn, left.Sublist before ∧ right.Sublist before ∧
      left.length + right.length = before.length ∧
      text = after.foldl Turn.fill (left.foldl Turn.fill x ++ t.text ++ right.foldl Turn.fill y)

/-- All that wait have tickets that were given out. -/
def Queue.Ticketed (q : Queue) : Prop := ∀ p ∈ q.pending, p.ticket ≤ q.registered

theorem Queue.Effect.ticketed {q q' : Queue} {finished finished' : Bool}
    (h : Effect q finished q' finished') (hq : q.Ticketed) : q'.Ticketed := by
  cases h with
  | push marker producer =>
    intro p hp
    rcases List.mem_append.mp hp with hp | hp
    · exact Nat.le_succ_of_le (hq p hp)
    · rw [List.mem_singleton.mp hp]
      exact Nat.le_refl _
  | take hcons => exact fun p hp => hq p (hcons ▸ List.mem_cons_of_mem _ hp)
  | abandon => exact fun p hp => absurd hp List.not_mem_nil
  | _ => exact hq

namespace State

variable {s s' : State}

theorem Leads.ticketed (h : s.Leads s') (hs : s.request.queue.Ticketed) :
    s'.request.queue.Ticketed :=
  leads_of_invariant (fun _ _ hchange => hchange.effect.ticketed) h hs

/-- Who no longer waits after a change has started or was discarded in it. -/
theorem Change.gone (h : Change s s') : ∃ events, s'.journal = events ++ s.journal ∧
    ∀ p ∈ s.request.queue.pending, p ∈ s'.request.queue.pending ∨ p.Gone events := by
  cases h with
  | cacheGet key =>
    have hrequest := s.cacheGet_request key
    obtain ⟨_, hget⟩ | ⟨m, event, _, hget⟩ := s.cacheGet_cases key
    · exact ⟨[], by rw [hget]; rfl, fun p hp => .inl (by rwa [hrequest])⟩
    · exact ⟨[event], by rw [hget]; rfl, fun p hp => .inl (by rwa [hrequest])⟩
  | cacheSet key value ttl =>
    have hrequest := s.cacheSet_request key value ttl
    obtain ⟨_, hset⟩ | ⟨m, _, hset⟩ := s.cacheSet_cases key value ttl
    · exact ⟨[], by rw [hset]; rfl, fun p hp => .inl (by rwa [hrequest])⟩
    · exact ⟨_, by rw [hset], fun p hp => .inl (by rwa [hrequest])⟩
  | defer producer =>
    obtain ⟨_, hdefer⟩ | ⟨_, marker, markers, _, hdefer⟩ := s.defer_cases producer
    · exact ⟨[], by rw [hdefer]; rfl, fun p hp => .inl (by rwa [hdefer])⟩
    · refine ⟨[.registered _], by rw [hdefer]; rfl, fun p hp => .inl ?_⟩
      rw [hdefer]
      exact List.mem_append_left _ hp
  | take hnext =>
    obtain ⟨_, hnone⟩ | ⟨p, rest, hq, hsome⟩ := s.next?_cases
    · rw [hnone] at hnext
      cases hnext
    · rw [hsome] at hnext
      cases hnext
      refine ⟨[.started _], rfl, ?_⟩
      intro q hqp
      rw [hq] at hqp
      rcases List.mem_cons.mp hqp with rfl | hqr
      · exact .inr (.inl List.mem_cons_self)
      · exact .inl hqr
  | substitute p text buffer =>
    obtain ⟨event, hrecord⟩ := s.substitute_snd p text buffer
    exact ⟨[event], by rw [hrecord]; rfl, fun q hq => .inl (by rwa [hrecord])⟩
  | abandon ticket =>
    refine ⟨(s.request.queue.pending.map fun p => .discarded p.ticket).reverse ++ [.failed ticket],
      by simp [State.abandon], ?_⟩
    intro p hp
    refine .inr (.inr (List.mem_append_left _ (List.mem_reverse.mpr ?_)))
    exact List.mem_map_of_mem (f := fun p => Event.discarded p.ticket) hp
  | emit text => exact ⟨[.flushed], rfl, fun p hp => .inl hp⟩
  | _ => exact ⟨[], rfl, fun p hp => .inl hp⟩

theorem Leads.gone (h : s.Leads s') : ∃ events, s'.journal = events ++ s.journal ∧
    ∀ p ∈ s.request.queue.pending, p ∈ s'.request.queue.pending ∨ p.Gone events := by
  induction h with
  | refl => exact ⟨[], rfl, fun p hp => .inl hp⟩
  | tail _ hchange ih =>
    obtain ⟨events, hjournal, hgone⟩ := ih
    obtain ⟨later, hlater, hnext⟩ := hchange.gone
    refine ⟨later ++ events, by rw [hlater, hjournal, List.append_assoc], ?_⟩
    intro p hp
    rcases hgone p hp with hp | hstarted | hdiscarded
    · rcases hnext p hp with hp | hstarted | hdiscarded
      · exact .inl hp
      · exact .inr (.inl (List.mem_append_left _ hstarted))
      · exact .inr (.inr (List.mem_append_left _ hdiscarded))
    · exact .inr (.inl (List.mem_append_right _ hstarted))
    · exact .inr (.inr (List.mem_append_right _ hdiscarded))

theorem substitute_queue (s : State) (p : Pending) (text buffer : String) :
    (s.substitute p text buffer).2.request.queue = s.request.queue := by
  obtain ⟨event, hrecord⟩ := s.substitute_snd p text buffer
  rw [hrecord]
  rfl

end State

namespace Turn

/-- The text of a turn comes to stand before or after another marker, never across it. -/
theorem fill_around {t : Turn} {m : Marker} (apart : t.entry.marker.Apart m) (x y : String) :
    fill (x ++ m.text ++ y) t = fill x t ++ m.text ++ y ∨
      fill (x ++ m.text ++ y) t = x ++ m.text ++ fill y t := by
  unfold fill
  cases hwhole : Text.substituteFirst t.entry.marker.text t.text (x ++ m.text ++ y) with
  | none =>
    -- The marker does not stand in the second part then either.
    right
    cases hpart : Text.substituteFirst t.entry.marker.text t.text y with
    | none => rfl
    | some out =>
      obtain ⟨u, v, rfl, _, _⟩ := Text.substituteFirst_eq_some_iff.mp hpart
      have hsome := Text.substituteFirst_isSome t.entry.marker.text t.text (x ++ m.text ++ u) v
      have hassoc : x ++ m.text ++ (u ++ t.entry.marker.text ++ v) =
          x ++ m.text ++ u ++ t.entry.marker.text ++ v := by simp only [String.append_assoc]
      rw [← hassoc, hwhole] at hsome
      cases hsome
  | some out =>
    obtain ⟨a, b, hcut, rfl, hfirst⟩ := Text.substituteFirst_eq_some_iff.mp hwhole
    rcases apart a b x y hcut.symm with ⟨w, rfl, rfl⟩ | ⟨w, rfl, rfl⟩
    · left
      have hpart : Text.substituteFirst t.entry.marker.text t.text
          (a ++ t.entry.marker.text ++ w) = some (a ++ t.text ++ w) := by
        refine Text.substituteFirst_eq_some_iff.mpr ⟨a, w, rfl, rfl, ?_⟩
        intro u v huv
        refine hfirst u (v ++ m.text ++ y) ?_
        rw [huv]
        simp only [String.append_assoc]
      rw [hpart]
      simp only [Option.getD_some, String.append_assoc]
    · right
      have hpart : Text.substituteFirst t.entry.marker.text t.text
          (w ++ t.entry.marker.text ++ b) = some (w ++ t.text ++ b) := by
        refine Text.substituteFirst_eq_some_iff.mpr ⟨w, b, rfl, rfl, ?_⟩
        intro u v huv
        have hle := hfirst (x ++ m.text ++ u) v (by rw [huv]; simp only [String.append_assoc])
        simp only [String.length_append] at hle
        omega
      rw [hpart]
      simp only [Option.getD_some, String.append_assoc]

/-- Turns of other markers change what stands before and after a marker, and nothing else. -/
theorem foldl_fill_around {turns : List Turn} {m : Marker}
    (apart : ∀ t ∈ turns, t.entry.marker.Apart m) (x y : String) :
    ∃ left right : List Turn, left.Sublist turns ∧ right.Sublist turns ∧
      left.length + right.length = turns.length ∧
      turns.foldl fill (x ++ m.text ++ y) = left.foldl fill x ++ m.text ++ right.foldl fill y := by
  induction turns generalizing x y with
  | nil => exact ⟨[], [], .slnil, .slnil, rfl, rfl⟩
  | cons t turns ih =>
    have hrest := fun u hu => apart u (List.mem_cons_of_mem t hu)
    rcases fill_around (apart t List.mem_cons_self) x y with hfill | hfill
    · obtain ⟨left, right, hleft, hright, hlength, htext⟩ := ih hrest (fill x t) y
      refine ⟨t :: left, right, hleft.cons_cons t, hright.cons t, ?_, ?_⟩
      · simp only [List.length_cons]
        omega
      · rw [List.foldl_cons, hfill, htext, List.foldl_cons]
    · obtain ⟨left, right, hleft, hright, hlength, htext⟩ := ih hrest x (fill y t)
      refine ⟨left, t :: right, hleft.cons t, hright.cons_cons t, ?_, ?_⟩
      · simp only [List.length_cons]
        omega
      · rw [List.foldl_cons, hfill, htext, List.foldl_cons]

theorem fill_single {t : Turn} {x y : String}
    (single : t.entry.marker.Single (x ++ t.entry.marker.text ++ y)) :
    fill (x ++ t.entry.marker.text ++ y) t = x ++ t.text ++ y := by
  have hsome : Text.substituteFirst t.entry.marker.text t.text (x ++ t.entry.marker.text ++ y) =
      some (x ++ t.text ++ y) := by
    refine Text.substituteFirst_eq_some_iff.mpr ⟨x, y, rfl, rfl, ?_⟩
    intro u v huv
    rw [single x y u v rfl huv]
  rw [fill, hsome, Option.getD_some]

end Turn

theorem drained_of_drain {fuel position : Nat} {buffer text : String} {s s' : State}
    (h : (Engine.ofFuel fuel).drain position buffer s = some (.ok (), text, s')) :
    ∃ turns, Drained s buffer turns text s' := by
  induction fuel generalizing position buffer s with
  | zero => cases h
  | succ fuel ih =>
    change (Engine.ofFuel fuel).runDrain position buffer s = _ at h
    unfold Engine.runDrain at h
    obtain ⟨hnil, hnext⟩ | ⟨p, rest, hq, hnext⟩ := s.next?_cases
    · rw [hnext] at h
      cases h
      exact ⟨[], .nil hnil⟩
    · rw [hnext] at h
      obtain ⟨⟨result, s₁⟩, hrun, h⟩ := Option.bind_eq_some_iff.mp h
      cases result with
      | ok words =>
        obtain ⟨turns, hturns⟩ := ih h
        exact ⟨_, .cons hq hrun hturns⟩
      | error error => cases h

namespace Drained

variable {s s' : State} {buffer text : String} {turns : List Turn}

theorem text_eq (h : Drained s buffer turns text s') : text = turns.foldl Turn.fill buffer := by
  induction h with
  | nil => rfl
  | cons _ _ _ ih => rw [ih, List.foldl_cons, State.substitute_fst, Turn.fill]

theorem clears (h : Drained s buffer turns text s') : s.Clears s' := by
  induction h with
  | nil hnil => exact ⟨.single (.drained hnil), hnil, rfl⟩
  | cons hq hrun _ ih =>
    have hrun := ((Engine.lawful_ofFuel _).runContent hrun).leads
    exact ⟨((Relation.ReflTransGen.single (.take (State.next?_cons hq))).trans hrun).trans
      (.head (.substitute _ _ _) ih.leads), ih.clear⟩

theorem head_waits {t : Turn} (h : Drained s buffer (t :: turns) text s') :
    t.entry ∈ s.request.queue.pending := by
  cases h with
  | cons hq _ _ => exact hq ▸ List.mem_cons_self

/-- Where every producer left the queue alone, the last apart, each of those that waited had its
turn. -/
theorem turns_of_leaves (h : Drained s buffer turns text s') {ps : List Pending}
    (hps : ps <+: s.request.queue.pending) (leaves : ∀ t ∈ turns.take (ps.length - 1), t.Leaves) :
    ps <+: turns.map Turn.entry := by
  induction h generalizing ps with
  | nil hnil =>
    rw [hnil] at hps
    rw [List.prefix_nil.mp hps]
    exact List.nil_prefix
  | @cons s s₁ s' p rest fuel words buffer buffer' turns hq hrun _ ih =>
    rw [hq] at hps
    cases ps with
    | nil => exact List.nil_prefix
    | cons q ps =>
      obtain ⟨rfl, htail⟩ := List.cons_prefix_cons.mp hps
      refine List.cons_prefix_cons.mpr ⟨rfl, ?_⟩
      cases ps with
      | nil => exact List.nil_prefix
      | cons r ps =>
        have hfirst : rest <+: s₁.request.queue.pending := leaves _ List.mem_cons_self
        refine ih ?_ fun t ht => leaves t (List.mem_cons_of_mem _ ht)
        rw [State.substitute_queue]
        exact htail.trans hfirst

/-- Where each of those that waited had its turn, every producer left the queue alone, the last
apart: one that took the others away would have left only younger ones to go on with. -/
theorem leaves_of_turns (h : Drained s buffer turns text s') (hs : s.request.queue.Ticketed)
    {ps : List Pending} (hps : ps <+: s.request.queue.pending)
    (hturns : ps <+: turns.map Turn.entry) :
    ∀ t ∈ turns.take (ps.length - 1), t.Leaves := by
  induction h generalizing ps with
  | nil => simp
  | @cons s s₁ s' p rest fuel words buffer buffer' turns hq hrun hrest ih =>
    have hevolves := (Engine.lawful_ofFuel _).runContent hrun
    have hticketed : s₁.request.queue.Ticketed :=
      State.Leads.ticketed (.head (.take (State.next?_cons hq)) hevolves.leads) hs
    rw [hq] at hps
    cases ps with
    | nil => simp
    | cons q ps =>
      obtain ⟨rfl, htail⟩ := List.cons_prefix_cons.mp hps
      obtain ⟨_, hnext⟩ := List.cons_prefix_cons.mp hturns
      cases ps with
      | nil => simp
      | cons r ps =>
        have hfirst : rest <+: s₁.request.queue.pending := by
          obtain ⟨fresh, hfresh, hkept | hnew⟩ := hevolves.queue
          · exact hkept ▸ List.prefix_append rest fresh
          · cases turns with
            | nil => simp at hnext
            | cons t turns =>
              obtain ⟨hentry, _⟩ := List.cons_prefix_cons.mp hnext
              have hr := hrest.head_waits
              rw [← hentry, State.substitute_queue, hnew] at hr
              have hyoung : s.request.queue.registered < r.ticket := hfresh r hr
              have hold := hs r (hq ▸ List.mem_cons_of_mem _ (htail.subset List.mem_cons_self))
              omega
        intro t ht
        rcases List.mem_cons.mp ht with rfl | ht
        · exact hfirst
        · refine ih ?_ ?_ hnext t ht
          · rw [State.substitute_queue]
            exact hticketed
          · rw [State.substitute_queue]
            exact htail.trans hfirst

theorem resolves (h : Drained s buffer turns text s') (hs : s.request.queue.Ticketed) :
    Resolves s buffer turns text s' where
  drained := h
  gone := by
    obtain ⟨events, hjournal, hgone⟩ := h.clears.leads.gone
    refine ⟨events, hjournal, fun p hp => (hgone p hp).resolve_left ?_⟩
    rw [h.clears.clear.1]
    exact List.not_mem_nil
  turns_iff := ⟨h.leaves_of_turns hs List.prefix_rfl, h.turns_of_leaves List.prefix_rfl⟩
  replaced := by
    rintro before after t x y rfl rfl apart single
    obtain ⟨left, right, hleft, hright, hlength, htext⟩ := Turn.foldl_fill_around apart x y
    refine ⟨left, right, hleft, hright, hlength, ?_⟩
    rw [htext] at single
    rw [h.text_eq, List.foldl_append, List.foldl_cons, htext, Turn.fill_single single]

end Drained

/-- What a flush resolves. It is a drain: the texts of its turns replace the markers that stand
first. All that waited have started or were discarded by the end. Each had its turn in this drain
exactly if none but the last took those behind it away, which it does by flushing the request
itself. -/
theorem flush_resolves {filters : Registry} {markers : MarkerSource} {cache : Cache} {s : State}
    (hs : State.Leads { request := { filters, markers }, cache } s) (fuel : Nat) :
    (∀ buffer text s', (Engine.ofFuel fuel).flushDeferred buffer s = some (.ok text, s') →
      ∃ turns, Resolves s buffer turns text s') ∧
    ∀ s', (Engine.ofFuel fuel).flushBuffer s = some (.ok (), s') → ∃ turns text s₁,
      Resolves { s with request.buffer := "" } s.request.buffer turns text s₁ ∧
      s' = { s₁ with request.output := s₁.request.output ++ text }.record .flushed := by
  have hticketed : s.request.queue.Ticketed :=
    State.Leads.ticketed hs fun p hp => absurd hp List.not_mem_nil
  constructor
  · intro buffer text s' h
    obtain ⟨⟨result, buffer', s₁⟩, hdrain, h⟩ := Option.bind_eq_some_iff.mp h
    cases result with
    | ok _ =>
      cases h
      obtain ⟨turns, hturns⟩ := drained_of_drain hdrain
      exact ⟨turns, hturns.resolves hticketed⟩
    | error error => cases h
  · intro s' h
    obtain ⟨⟨result, text, s₁⟩, hdrain, h⟩ := Option.bind_eq_some_iff.mp h
    cases result with
    | ok _ =>
      cases h
      obtain ⟨turns, hturns⟩ := drained_of_drain hdrain
      exact ⟨turns, text, s₁, hturns.resolves hticketed, rfl⟩
    | error error => cases h

/-- Two markers that stand the other way round. -/
theorem flush_resolves_swapped :
    ∃ s s' turns, State.Leads { request := { filters := {}, markers := .distinct "n" 0 } } s ∧
      (Engine.ofFuel 3).flushDeferred
        ((Marker.numbered "n" 2).text ++ "-" ++ (Marker.numbered "n" 1).text) s =
          some (.ok "b-a", s') ∧
      Resolves s ((Marker.numbered "n" 2).text ++ "-" ++ (Marker.numbered "n" 1).text) turns
        "b-a" s' ∧
      s.request.queue.pending <+: turns.map Turn.entry ∧
      ∃ left right : List Turn, "b-a" = left.foldl Turn.fill "" ++ "b" ++
        right.foldl Turn.fill ("-" ++ (Marker.numbered "n" 1).text) := by
  obtain ⟨s, hs, hpending, s', hflush⟩ : ∃ s,
      State.Leads { request := { filters := {}, markers := .distinct "n" 0 } } s ∧
      s.request.queue.pending = [⟨1, .numbered "n" 1, .literal "a"⟩,
        ⟨2, .numbered "n" 2, .literal "b"⟩] ∧
      ∃ s', (Engine.ofFuel 3).flushDeferred
        ((Marker.numbered "n" 2).text ++ "-" ++ (Marker.numbered "n" 1).text) s =
          some (.ok "b-a", s') :=
    ⟨_, .tail (.single (.defer (.literal "a"))) (.defer (.literal "b")), rfl, _, rfl⟩
  obtain ⟨turns, hresolves⟩ := (flush_resolves hs 3).1 _ _ _ hflush
  obtain ⟨t, t', rfl, leaves, hmarker, htext, hmarker', htext'⟩ : ∃ t t', turns = [t, t'] ∧
      t.Leaves ∧ t.entry.marker = .numbered "n" 1 ∧ t.text = "a" ∧
      t'.entry.marker = .numbered "n" 2 ∧ t'.text = "b" := by
    have hdrained := hresolves.drained
    generalize "b-a" = text at hdrained
    generalize (Marker.numbered "n" 2).text ++ "-" ++ (Marker.numbered "n" 1).text = buffer
      at hdrained
    cases hdrained with
    | nil hnil => simp [hpending] at hnil
    | cons hq hrun hrest =>
      rw [hpending] at hq
      cases hq
      cases hrun
      cases hrest with
      | nil hnil => simp [State.substitute_queue, State.start, State.record] at hnil
      | cons hq hrun hrest =>
        rw [State.substitute_queue] at hq
        cases hq
        cases hrun
        cases hrest with
        | nil => exact ⟨_, _, rfl, List.prefix_rfl, rfl, rfl, rfl, rfl⟩
        | cons hq hrun hrest =>
          rw [State.substitute_queue] at hq
          cases hq
  have hprefix := hresolves.turns_iff.mpr (by simpa [hpending] using leaves)
  refine ⟨s, s', _, hs, hflush, hresolves, hprefix, ?_⟩
  have hfill : [t].foldl Turn.fill ((Marker.numbered "n" 2).text ++ "-" ++
      (Marker.numbered "n" 1).text) = (Marker.numbered "n" 2).text ++ "-a" := by
    simp only [List.foldl_cons, List.foldl_nil, Turn.fill, hmarker, htext]
    decide
  have hapart : ∀ u ∈ [t], u.entry.marker.Apart t'.entry.marker := by
    intro u hu
    rw [List.mem_singleton.mp hu, hmarker, hmarker']
    exact Marker.numbered_apart (by decide) (by decide)
  have hsingle : t'.entry.marker.Single ([t].foldl Turn.fill ((Marker.numbered "n" 2).text ++ "-" ++
      (Marker.numbered "n" 1).text)) := by
    rw [hfill, hmarker']
    exact Marker.numbered_single (by decide) 2
  obtain ⟨left, right, _, _, _, hreplaced⟩ := hresolves.replaced [t] [] t' ""
    ("-" ++ (Marker.numbered "n" 1).text) rfl (by simp [hmarker', String.append_assoc]) hapart
    hsingle
  rw [htext'] at hreplaced
  exact ⟨left, right, hreplaced⟩

/-- A flush that succeeds and leaves a marker which stood in its buffer. The first producer flushes
the request, so the second runs while there is another buffer. -/
theorem flush_misses_pending :
    ∃ s s', State.Leads { request := { filters := {}, markers := .distinct "n" 0 } } s ∧
      s.request.queue.pending.map Pending.marker = [.numbered "n" 1, .numbered "n" 2] ∧
      s.request.buffer = (Marker.numbered "n" 1).text ++ (Marker.numbered "n" 2).text ∧
      (Engine.ofFuel 4).flushBuffer s = some (.ok (), s') ∧
      s'.request.output = "xA" ++ (Marker.numbered "n" 2).text :=
  ⟨_, _, .tail (.tail (.tail (.tail .refl (.defer (.perform (.flushDeferred "x") fun
    | .ok text => .literal (text ++ "A")
    | .error error => .fail error))) (.print (Marker.numbered "n" 1).text))
      (.defer (.literal "B"))) (.print (Marker.numbered "n" 2).text), rfl, rfl, rfl, rfl⟩

end PageFilters
