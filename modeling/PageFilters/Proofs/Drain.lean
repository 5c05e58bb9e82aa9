import PageFilters.Proofs.Backlog
import PageFilters.Proofs.Producer

namespace PageFilters

open Plan

theorem Plan.drainPrints_cons (n : Nat) (p : Plan) (ps : List Plan) :
    drainPrints n (p :: ps) =
      p.printed.map (Piece.renumber (n + 1 + ·)) ++
        drainPrints (n + p.children.length) (ps ++ p.children) := by
  rw [drainPrints]

theorem Plan.drainPrints_bounds {n : Nat} {ps : List Plan}
    (h : ∀ p ∈ nodesAll ps, p.Linear) :
    Piece.Plain (drainPrints n ps) ∧
      ∀ i ∈ Piece.indices (drainPrints n ps), i ≤ n + growth ps := by
  induction n, ps using drainPrints.induct with
  | case1 n => simp [drainPrints, Piece.Plain, Piece.indices]
  | case2 n p ps ih =>
    have hp : p.Linear := h p (mem_nodesAll_self (by simp))
    obtain ⟨plain, known⟩ := ih fun q hq => h q (mem_nodesAll_step.mpr (Or.inr hq))
    rw [drainPrints_cons, Piece.plain_append, Piece.plain_renumber, growth_step]
    refine ⟨⟨hp.1, plain⟩, ?_⟩
    intro i hi
    rw [Piece.indices_append, List.mem_append] at hi
    rcases hi with hi | hi
    · have hb := Backlog.renumber_bounds n
        (fun j hj => hp.2.2.2 j (by simp [Piece.indices_append, hj])) i hi
      omega
    · have := known i hi
      omega

namespace Setting

variable {w : Setting}

/-- The queue holds producers that realize the plans of the backlog. -/
def Waiting (w : Setting) (b : Backlog) (s : State) : Prop :=
  List.Forall₂ (fun q e => e.marker = .numbered w.nonce q.1 ∧ w.Realizes q.2 e.producer)
    b s.request.queue.pending

theorem waiting_enter {n : Nat} {ps : List Plan} {entries : List Pending}
    (hm : entries.map Pending.marker =
      (List.range' (n + 1) entries.length).map (Marker.numbered w.nonce))
    (hr : List.Forall₂ w.Realizes ps (entries.map Pending.producer)) :
    List.Forall₂ (fun q e => e.marker = .numbered w.nonce q.1 ∧ w.Realizes q.2 e.producer)
      (Backlog.enter n ps) entries := by
  induction ps generalizing n entries with
  | nil =>
    cases entries with
    | nil => exact .nil
    | cons e entries => simp at hr
  | cons p ps ih =>
    cases entries with
    | nil => simp at hr
    | cons e entries =>
      simp only [List.map_cons, List.forall₂_cons] at hr
      simp only [List.map_cons, List.length_cons, List.range'_succ, List.cons.injEq] at hm
      exact .cons ⟨hm.1, hr.1⟩ (ih hm.2 hr.2)

theorem Waiting.extend {n : Nat} {b : Backlog} {ps : List Plan} {s s' : State} {text : String}
    {entries : List Pending} (h : w.Waiting b s) (he : w.Extends n s text entries s')
    (hr : List.Forall₂ w.Realizes ps (entries.map Pending.producer)) :
    w.Waiting (b ++ Backlog.enter n ps) s' := by
  rw [Waiting, he.pending]
  exact List.rel_append h (waiting_enter he.numbered hr)

theorem Holds.record {n : Nat} {s : State} (h : w.Holds n s) (event : Event) :
    w.Holds n (s.record event) :=
  ⟨h.filters, h.markers, h.unfinished, h.cache⟩

theorem run_next (fuel : Nat) {n k : Nat} {p : Plan} {b : Backlog} {s : State} (hf : w.fuel ≤ fuel)
    (hs : w.Holds n s) (hw : w.Waiting ((k, p) :: b) s)
    (hn : n + p.children.length ≤ MarkerSource.lastNumber) :
    ∃ e rest s₂, s.request.queue.pending = e :: rest ∧ e.marker = .numbered w.nonce k ∧
      (Engine.ofFuel fuel).runContent e.producer (s.start e rest) =
        some (.ok (w.text n p.returned), s₂) ∧
      w.Holds (n + p.children.length) s₂ ∧ w.Waiting (b ++ Backlog.enter n p.children) s₂ ∧
      s₂.request.buffer = s.request.buffer ++ w.text n p.printed ∧
      s₂.request.output = s.request.output := by
  obtain ⟨e, rest, ⟨hm, hr⟩, ht, hq⟩ := List.forall₂_cons_left_iff.mp hw
  have hs₁ : w.Holds n (s.start e rest) := ⟨hs.filters, hs.markers, hs.unfinished, hs.cache⟩
  have hw₁ : w.Waiting b (s.start e rest) := ht
  obtain ⟨entries, s₂, hrun, hext, hkids⟩ := realizes_iff.mp hr fuel n _ hf hs₁ hn
  have hlen : entries.length = p.children.length := by
    simpa using hkids.length_eq.symm
  exact ⟨e, rest, s₂, hq, hm, hrun, hlen ▸ hext.holds,
    hw₁.extend hext hkids, hext.buffer, hext.output⟩

/-- The text of a producer takes the place of its marker, wherever that stands. -/
theorem substitute_next (hn : Ordinary w.nonce.toList) {n k : Nat} {p : Plan} {b : Backlog}
    {ps : List Piece} {e : Pending} {s : State} (sound : Backlog.Sound n ((k, p) :: b) ps)
    (he : e.marker = .numbered w.nonce k) :
    ∃ qs, (s.substitute e (w.text n p.returned) (Piece.raw w.nonce ps)).1 = Piece.raw w.nonce qs ∧
      Backlog.Sound (n + p.children.length) (b ++ Backlog.enter n p.children) qs ∧
      Piece.join ((b ++ Backlog.enter n p.children).reading w.nonce) qs =
        Piece.join (Backlog.reading w.nonce ((k, p) :: b)) ps := by
  by_cases hk : k ∈ Piece.indices ps
  · obtain ⟨before, after, rfl, hfirst⟩ := Piece.exists_first_marker hk
    have plain := (Piece.plain_append.mp sound.plain).1
    refine ⟨before ++ p.returned.map (Piece.renumber (n + 1 + ·)) ++ after, ?_,
      Backlog.sound_step_found sound, Backlog.join_step_found sound⟩
    simp only [State.substitute, he, Piece.substituteFirst_raw_present hn _ plain hfirst]
    rw [Piece.raw_append, Piece.raw_append, text]
  · refine ⟨ps, ?_, Backlog.sound_step_missing sound, Backlog.join_step_missing sound.known hk⟩
    simp only [State.substitute, he, Piece.substituteFirst_raw_absent hn _ sound.plain hk]

/-- A drain turns the buffer into what it was bound to read, and empties the queue. -/
theorem drain_waiting (hn : Ordinary w.nonce.toList) {m : Nat} (fuel position : Nat)
    {n : Nat} {b : Backlog} {ps : List Piece} {s : State} (hm : (nodesAll b.plans).length = m)
    (hf : w.fuel + m < fuel) (hs : w.Holds n s) (hw : w.Waiting b s) (sound : b.Sound n ps)
    (hb : n + growth b.plans ≤ MarkerSource.lastNumber) :
    ∃ s', (Engine.ofFuel fuel).drain position (Piece.raw w.nonce ps) s =
        some (.ok (), Piece.join (b.reading w.nonce) ps, s') ∧
      w.Holds (n + growth b.plans) s' ∧ s'.request.queue.pending = [] ∧
      s'.request.buffer =
        s.request.buffer ++ Piece.raw w.nonce (drainPrints n b.plans) ∧
      s'.request.output = s.request.output := by
  -- On the number of plans that wait or lie below those: the children of the plan that runs were
  -- counted with it, so what enters the queue never makes the number larger.
  induction m generalizing fuel position n b ps s with
  | zero =>
    obtain ⟨fuel, rfl⟩ : ∃ f, fuel = f + 1 := ⟨fuel - 1, by omega⟩
    have hlen := length_le_nodesAll b.plans
    have hnil : b = [] := by
      simpa [Backlog.plans] using List.eq_nil_of_length_eq_zero (by omega : b.plans.length = 0)
    subst hnil
    have hq : s.request.queue.pending = [] := List.forall₂_nil_left_iff.mp hw
    refine ⟨s.finishDrain, Engine.drain_nil hq,
      ⟨hs.filters, hs.markers, hs.unfinished, hs.cache⟩, hq, ?_, rfl⟩
    simp [State.finishDrain, Backlog.plans, drainPrints, Piece.raw, Piece.join]
  | succ m ih =>
    obtain ⟨fuel, rfl⟩ : ∃ f, fuel = f + 1 := ⟨fuel - 1, by omega⟩
    obtain ⟨⟨k, p⟩, b, rfl⟩ : ∃ (q : Nat × Plan) (b' : Backlog), b = q :: b' := by
      cases b with
      | nil => simp [Backlog.plans, nodesAll] at hm
      | cons q b => exact ⟨q, b, rfl⟩
    have hplans : Backlog.plans ((k, p) :: b) = p :: b.plans := rfl
    rw [hplans, nodesAll_step] at hm
    rw [hplans, growth_step] at hb
    obtain ⟨e, rest, s₂, hq, he, hrun, hs₂, hw₂, hbuf, hout⟩ :=
      run_next fuel (by omega) hs hw (by omega)
    obtain ⟨qs, hsub, sound₂, hjoin⟩ := substitute_next (s := s₂) hn sound he
    obtain ⟨event, hcons⟩ := Engine.drain_cons position (Piece.raw w.nonce ps) hq hrun
    have hkids : (b ++ Backlog.enter n p.children).plans = b.plans ++ p.children := by
      rw [Backlog.plans_append, Backlog.enter_plans]
    obtain ⟨s', hdrain, hs', hq', hbuf', hout'⟩ := ih fuel (position + 1)
      (s := s₂.record event) (by rw [hkids]; omega) (by omega) (hs₂.record event) hw₂ sound₂
      (by rw [hkids]; omega)
    rw [hkids] at hs' hbuf'
    refine ⟨s', ?_, ?_, hq', ?_, hout'.trans hout⟩
    · rw [hcons, hsub, hdrain, hjoin]
    · rw [hplans, growth_step, ← Nat.add_assoc]
      exact hs'
    · rw [hbuf', hplans, drainPrints_cons, Piece.raw_append, ← String.append_assoc]
      exact congrArg (· ++ _) hbuf

/-- A request whose buffer holds certain parts and whose queue follows a backlog. -/
structure Scene (w : Setting) (n : Nat) (b : Backlog) (ps : List Piece) (s : State) : Prop where
  holds : w.Holds n s
  waiting : w.Waiting b s
  sound : b.Sound n ps
  buffer : s.request.buffer = Piece.raw w.nonce ps

/-- A flush emits what the buffer was bound to read; what producers print stays behind as it is. -/
theorem Scene.flush (hn : Ordinary w.nonce.toList) (fuel : Nat) {n : Nat} {b : Backlog}
    {ps : List Piece} {s : State} (h : w.Scene n b ps s)
    (hf : w.fuel + (nodesAll b.plans).length < fuel)
    (hb : n + growth b.plans ≤ MarkerSource.lastNumber) :
    ∃ s', (Engine.ofFuel fuel).flushBuffer s = some (.ok (), s') ∧
      w.Scene (n + growth b.plans) [] (drainPrints n b.plans) s' ∧
      s'.request.output = s.request.output ++ Piece.join (b.reading w.nonce) ps := by
  have hs : w.Holds n { s with request.buffer := "" } :=
    ⟨h.holds.filters, h.holds.markers, h.holds.unfinished, h.holds.cache⟩
  have hw : w.Waiting b { s with request.buffer := "" } := h.waiting
  obtain ⟨s', hdrain, hs', hq, hbuf, hout⟩ :=
    drain_waiting hn fuel 0 rfl hf hs hw h.sound hb
  obtain ⟨plain, known⟩ := drainPrints_bounds (n := n) h.sound.linear
  rw [← h.buffer] at hdrain
  refine ⟨_, Engine.flushBuffer_ok hdrain, ?_, ?_⟩
  · refine ⟨⟨hs'.filters, hs'.markers, hs'.unfinished, hs'.cache⟩, ?_, ?_, ?_⟩
    · exact List.forall₂_nil_left_iff.mpr hq
    · exact ⟨by simp, by simp, by simp [Backlog.plans, nodesAll], plain, known, by simp⟩
    · simpa [State.record] using hbuf
  · exact congrArg (· ++ _) hout

theorem Scene.queue_nil {n : Nat} {ps : List Piece} {s : State} (h : w.Scene n [] ps s) :
    s.request.queue.pending = [] :=
  List.forall₂_nil_left_iff.mp h.waiting

/-- Flushing goes on until the text that producers printed has been emitted too. -/
theorem Scene.settle (hn : Ordinary w.nonce.toList) (fuel : Nat) {n : Nat} {b : Backlog}
    {ps : List Piece} {s : State} (h : w.Scene n b ps s)
    (hf : w.fuel + (nodesAll b.plans).length + 2 < fuel)
    (hb : n + growth b.plans ≤ MarkerSource.lastNumber) :
    ∃ s', (Engine.ofFuel fuel).settle s = some (.ok (), s') ∧
      s'.request.output = s.request.output ++ Piece.join (b.reading w.nonce) ps ++
        Piece.raw w.nonce (drainPrints n b.plans) := by
  obtain ⟨fuel, rfl⟩ : ∃ f, fuel = f + 2 := ⟨fuel - 2, by omega⟩
  obtain ⟨s₁, hflush, h₁, hout₁⟩ := h.flush hn (fuel + 1) (by omega) hb
  by_cases he : s₁.request.buffer = ""
  · have hraw : Piece.raw w.nonce (drainPrints n b.plans) = "" := by
      rw [← h₁.buffer, he]
    exact ⟨s₁, Engine.settle_done hflush he h₁.queue_nil,
      by rw [hout₁, hraw, String.append_empty]⟩
  · have hgrow : growth (Backlog.plans []) = 0 := rfl
    obtain ⟨s₂, hflush₂, h₂, hout₂⟩ := h₁.flush hn fuel
      (by simp only [Backlog.plans, List.map_nil, nodesAll, List.length_nil]; omega) (by omega)
    have hempty : s₂.request.buffer = "" := by
      rw [h₂.buffer]
      simp [Backlog.plans, drainPrints, Piece.raw, Piece.join]
    have hread : Piece.join (Backlog.reading w.nonce []) (drainPrints n b.plans) =
        Piece.raw w.nonce (drainPrints n b.plans) := rfl
    refine ⟨s₂, ?_, by rw [hout₂, hout₁, hread]⟩
    rw [Engine.settle_again hflush he, Engine.settle_done hflush₂ hempty h₂.queue_nil]

/-- Finishing returns all output, behind it what the buffer was bound to read, and last what the
producers print. -/
theorem Scene.finish (hn : Ordinary w.nonce.toList) (fuel : Nat) {n : Nat} {b : Backlog}
    {ps : List Piece} {s : State} (h : w.Scene n b ps s)
    (hf : w.fuel + (nodesAll b.plans).length + 2 < fuel)
    (hb : n + growth b.plans ≤ MarkerSource.lastNumber) :
    ∃ s', (Engine.ofFuel fuel).finish s =
      some (.ok (s.request.output ++ Piece.join (b.reading w.nonce) ps ++
        Piece.raw w.nonce (drainPrints n b.plans)), s') := by
  obtain ⟨s', hsettle, hout⟩ := h.settle hn fuel hf hb
  rw [← hout]
  exact ⟨_, Engine.finish_ok h.holds.unfinished hsettle⟩

end Setting

end PageFilters
