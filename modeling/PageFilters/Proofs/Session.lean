import PageFilters.Proofs.Drain

namespace PageFilters

open Plan

/-- A request on which nothing has happened yet. -/
def State.fresh (filters : Registry) (cache : Cache) (nonce : String) : State where
  request := { filters, markers := .distinct nonce 0 }
  cache := cache

/-- A call on a request. The numbers in a printed text count the calls of `defer` so far, from
zero. -/
inductive Step where
  | print (parts : List Piece)
  | defer (producer : Content)
  | flush

namespace Step

/-- The calls in order and then `finish`, with the markers handed out so far. -/
def program : List Marker → List Step → Content
  | _, [] => .perform .finish .done
  | handed, print parts :: steps =>
    .perform (.print (Piece.place handed parts)) fun () => program handed steps
  | handed, defer producer :: steps => .defer producer fun
    | .ok marker => program (handed ++ [marker]) steps
    | .error error => .fail error
  | handed, flush :: steps => .perform .flushBuffer fun
    | .ok () => program handed steps
    | .error error => .fail error

def producers : List Step → List Content
  | [] => []
  | print _ :: steps => producers steps
  | defer producer :: steps => producer :: producers steps
  | flush :: steps => producers steps

/-- All that the calls print. -/
def parts : List Step → List Piece
  | [] => []
  | print ps :: steps => ps ++ parts steps
  | defer _ :: steps => parts steps
  | flush :: steps => parts steps

/-- Each marker is printed at most once, and before the flush that follows its registration. `live`
holds the markers that may be printed, `count` is the number of markers handed out. -/
def Placed : (live : List Nat) → (count : Nat) → List Step → Prop
  | _, _, [] => True
  | live, count, print ps :: steps =>
    Piece.Plain ps ∧ (Piece.indices ps).Nodup ∧ (∀ i ∈ Piece.indices ps, i ∈ live) ∧
      Placed (live.filter fun i => i ∉ Piece.indices ps) count steps
  | live, count, defer _ :: steps => Placed (count :: live) (count + 1) steps
  | _, count, flush :: steps => Placed [] count steps

instance decidablePlaced : (live : List Nat) → (count : Nat) → (steps : List Step) →
    Decidable (Placed live count steps)
  | _, _, [] => inferInstanceAs (Decidable True)
  | live, count, print ps :: steps =>
    have := decidablePlaced (live.filter fun i => i ∉ Piece.indices ps) count steps
    inferInstanceAs (Decidable (_ ∧ _ ∧ _ ∧ _))
  | live, count, defer _ :: steps => decidablePlaced (count :: live) (count + 1) steps
  | _, count, flush :: steps => decidablePlaced [] count steps

/-- What `finish` returns from the calls on, `n` markers being issued, with the plans of the
producers that wait, of those registered so far and of those to come. -/
def transcript (nonce : String) :
    Nat → (queue given coming : List Plan) → List Step → String
  | n, queue, _, _, [] => Piece.raw nonce (drainPrints n queue)
  | n, queue, given, coming, print ps :: steps =>
    Piece.join (fun i => (given.map expand).getD i "") ps ++
      transcript nonce n queue given coming steps
  | _, _, _, [], defer _ :: _ => ""
  | n, queue, given, p :: coming, defer _ :: steps =>
    transcript nonce (n + 1) (queue ++ [p]) (given ++ [p]) coming steps
  | n, queue, given, coming, flush :: steps =>
    Piece.raw nonce (drainPrints n queue) ++
      transcript nonce (n + growth queue) [] given coming steps

end Step

namespace Setting

variable {w : Setting}

theorem scene_fresh (w : Setting) :
    w.Scene 0 [] [] (.fresh w.filters w.cache w.nonce) where
  holds := ⟨rfl, rfl, rfl, rfl⟩
  waiting := .nil
  sound := ⟨by simp, by simp, by simp [Backlog.plans, nodesAll], trivial, by simp [Piece.indices],
    by simp⟩
  buffer := rfl

theorem Scene.print {n : Nat} {b : Backlog} {ps qs : List Piece} {s : State}
    (h : w.Scene n b ps s) (plain : Piece.Plain qs) (known : ∀ i ∈ Piece.indices qs, i ≤ n)
    (once : ∀ q ∈ b, (Piece.indices (ps ++ qs)).count q.1 ≤ 1) :
    w.Scene n b (ps ++ qs) (s.print (Piece.raw w.nonce qs)) where
  holds := ⟨h.holds.filters, h.holds.markers, h.holds.unfinished, h.holds.cache⟩
  waiting := h.waiting
  sound :=
    { distinct := h.sound.distinct
      issued := h.sound.issued
      linear := h.sound.linear
      plain := Piece.plain_append.mpr ⟨h.sound.plain, plain⟩
      known := by
        intro i hi
        rw [Piece.indices_append, List.mem_append] at hi
        exact hi.elim (h.sound.known i) (known i)
      once := once }
  buffer := by
    rw [Piece.raw_append, ← h.buffer]
    rfl

theorem Scene.defer {n : Nat} {b : Backlog} {ps : List Piece} {s : State} {p : Plan}
    {c : Content} (h : w.Scene n b ps s) (hc : w.Realizes p c) (linear : ∀ q ∈ p.nodes, q.Linear)
    (hn : n + 1 ≤ MarkerSource.lastNumber) :
    ∃ s', s.defer c = (.ok (.numbered w.nonce (n + 1)), s') ∧
      w.Scene (n + 1) (b ++ [(n + 1, p)]) ps s' ∧ s'.request.output = s.request.output := by
  obtain ⟨s', hdefer, hext⟩ := h.holds.defer hn c
  have hwait := h.waiting.extend hext (List.forall₂_cons.mpr ⟨hc, .nil⟩)
  have henter : Backlog.enter n [p] = [(n + 1, p)] := rfl
  obtain ⟨distinct, issued⟩ := Backlog.numbers_step h.sound.issued h.sound.distinct [p]
  have once := Backlog.once_enter h.sound.known [p]
  rw [henter] at hwait distinct issued once
  refine ⟨s', hdefer, ⟨hext.holds, hwait, ⟨distinct, issued, ?_, h.sound.plain, ?_, ?_⟩, ?_⟩,
    hext.output⟩
  · intro q hq
    rw [Backlog.plans_append, nodesAll_append, List.mem_append] at hq
    rcases hq with hq | hq
    · exact h.sound.linear q hq
    · exact linear q (by simpa [Backlog.plans, nodesAll] using hq)
  · intro i hi
    have := h.sound.known i hi
    omega
  · intro q hq
    rcases List.mem_append.mp hq with hq | hq
    · exact h.sound.once q hq
    · have := once q hq
      omega
  · rw [hext.buffer, String.append_empty, h.buffer]

end Setting

/-- The numbers of the markers handed out, of which those that are live belong to producers that
wait and have not been printed. -/
structure Handed (n : Nat) (b : Backlog) (ps : List Piece) (numbers : List Nat)
    (given : List Plan) (live : List Nat) : Prop where
  length : numbers.length = given.length
  issued : ∀ k ∈ numbers, k ≤ n
  distinct : numbers.Nodup
  waiting : ∀ i ∈ live, ∃ k p, numbers[i]? = some k ∧ given[i]? = some p ∧
    b.lookup k = some p ∧ k ∉ Piece.indices ps

namespace Handed

variable {nonce : String} {n : Nat} {b : Backlog} {ps qs : List Piece} {numbers : List Nat}
  {given : List Plan} {live : List Nat}

theorem place_eq (h : Handed n b ps numbers given live) (hl : ∀ i ∈ Piece.indices qs, i ∈ live) :
    Piece.place (numbers.map (Marker.numbered nonce)) qs =
      Piece.raw nonce (qs.map (Piece.renumber (numbers.getD · 0))) := by
  rw [Piece.raw, Piece.join_renumber]
  apply Piece.join_congr
  intro i hi
  obtain ⟨k, p, hk, _, _, _⟩ := h.waiting i (hl i hi)
  simp [hk]

theorem reading_eq (h : Handed n b ps numbers given live)
    (hl : ∀ i ∈ Piece.indices qs, i ∈ live) :
    Piece.join (b.reading nonce) (qs.map (Piece.renumber (numbers.getD · 0))) =
      Piece.join (fun i => (given.map expand).getD i "") qs := by
  rw [Piece.join_renumber]
  apply Piece.join_congr
  intro i hi
  obtain ⟨k, p, hk, hp, hb, _⟩ := h.waiting i (hl i hi)
  simp [Backlog.reading, hk, hp, hb]

theorem renumber_known (h : Handed n b ps numbers given live)
    (hl : ∀ i ∈ Piece.indices qs, i ∈ live) :
    ∀ j ∈ Piece.indices (qs.map (Piece.renumber (numbers.getD · 0))), j ≤ n := by
  intro j hj
  rw [Piece.indices_renumber, List.mem_map] at hj
  obtain ⟨i, hi, rfl⟩ := hj
  obtain ⟨k, p, hk, _, _, _⟩ := h.waiting i (hl i hi)
  have hm := h.issued k (List.mem_of_getElem? hk)
  simpa [hk] using hm

theorem number_injective (h : Handed n b ps numbers given live) {i j : Nat} (hi : i ∈ live)
    (hj : j ∈ live) (he : numbers.getD i 0 = numbers.getD j 0) : i = j := by
  obtain ⟨k, p, hk, _, _, _⟩ := h.waiting i hi
  obtain ⟨l, q, hl, _, _, _⟩ := h.waiting j hj
  obtain ⟨hib, hiv⟩ := List.getElem?_eq_some_iff.mp hk
  obtain ⟨hjb, hjv⟩ := List.getElem?_eq_some_iff.mp hl
  have hv : numbers[i] = numbers[j] := by simpa [hk, hl, hiv, hjv] using he
  exact (List.Nodup.getElem_inj_iff h.distinct).mp hv

theorem renumber_once (h : Handed n b ps numbers given live) (sound : b.Sound n ps)
    (hl : ∀ i ∈ Piece.indices qs, i ∈ live) (hd : (Piece.indices qs).Nodup) :
    ∀ q ∈ b, (Piece.indices (ps ++ qs.map (Piece.renumber (numbers.getD · 0)))).count q.1 ≤ 1 := by
  intro q hq
  rw [Piece.indices_append, List.count_append]
  have hnodup : (Piece.indices (qs.map (Piece.renumber (numbers.getD · 0)))).Nodup := by
    rw [Piece.indices_renumber]
    exact List.Nodup.map_on (fun i hi j hj => h.number_injective (hl i hi) (hl j hj)) hd
  have hqs := List.nodup_iff_count.mp hnodup q.1
  have hps := sound.once q hq
  by_cases hm : q.1 ∈ Piece.indices (qs.map (Piece.renumber (numbers.getD · 0)))
  · have hzero : (Piece.indices ps).count q.1 = 0 := by
      rw [Piece.indices_renumber, List.mem_map] at hm
      obtain ⟨i, hi, he⟩ := hm
      obtain ⟨k, p, hk, _, _, hfree⟩ := h.waiting i (hl i hi)
      have hkq : k = q.1 := by simpa [hk] using he
      rw [List.count_eq_zero, ← hkq]
      exact hfree
    omega
  · rw [List.count_eq_zero.mpr hm]
    omega

theorem print (h : Handed n b ps numbers given live) (hl : ∀ i ∈ Piece.indices qs, i ∈ live) :
    Handed n b (ps ++ qs.map (Piece.renumber (numbers.getD · 0))) numbers given
      (live.filter fun i => i ∉ Piece.indices qs) where
  length := h.length
  issued := h.issued
  distinct := h.distinct
  waiting := by
    intro i hi
    obtain ⟨hi, hout⟩ := List.mem_filter.mp hi
    obtain ⟨k, p, hk, hp, hb, hfree⟩ := h.waiting i hi
    refine ⟨k, p, hk, hp, hb, ?_⟩
    rw [Piece.indices_append, List.mem_append, not_or, Piece.indices_renumber, List.mem_map]
    refine ⟨hfree, ?_⟩
    rintro ⟨j, hj, he⟩
    have hij : j = i := h.number_injective (hl j hj) hi (by simpa [hk] using he)
    subst hij
    simp [hj] at hout

theorem defer (h : Handed n b ps numbers given live) (sound : b.Sound n ps) (p : Plan) :
    Handed (n + 1) (b ++ [(n + 1, p)]) ps (numbers ++ [n + 1]) (given ++ [p])
      (given.length :: live) where
  length := by simp [h.length]
  issued := by
    intro k hk
    rcases List.mem_append.mp hk with hk | hk
    · have := h.issued k hk
      omega
    · simp at hk
      omega
  distinct := by
    rw [List.nodup_append]
    refine ⟨h.distinct, by simp, ?_⟩
    intro k hk j hj
    have := h.issued k hk
    simp at hj
    omega
  waiting := by
    intro i hi
    rcases List.mem_cons.mp hi with rfl | hi
    · have hnone := Backlog.lookup_of_lt (i := n + 1) sound.issued (by omega)
      refine ⟨n + 1, p, by simp [← h.length], by simp, by simp [List.lookup_append, hnone], ?_⟩
      intro hm
      have := sound.known _ hm
      omega
    · obtain ⟨k, q, hk, hq, hb, hfree⟩ := h.waiting i hi
      obtain ⟨hib, _⟩ := List.getElem?_eq_some_iff.mp hk
      obtain ⟨hjb, _⟩ := List.getElem?_eq_some_iff.mp hq
      refine ⟨k, q, ?_, ?_, by simp [List.lookup_append, hb], hfree⟩
      · rw [List.getElem?_append_left hib, hk]
      · rw [List.getElem?_append_left hjb, hq]

theorem flush (h : Handed n b ps numbers given live) {m : Nat} (hm : n ≤ m) (qs : List Piece) :
    Handed m [] qs numbers given [] where
  length := h.length
  issued := fun k hk => (h.issued k hk).trans hm
  distinct := h.distinct
  waiting := by simp

end Handed

/-- The calls of a session take the request from one scene to the next, up to `finish`. -/
theorem Setting.Scene.program {w : Setting} (hn : Ordinary w.nonce.toList) {fuel n : Nat}
    {b : Backlog} {ps : List Piece} {numbers live : List Nat} {given coming : List Plan}
    {steps : List Step} {s : State} (h : w.Scene n b ps s)
    (hand : Handed n b ps numbers given live) (placed : Step.Placed live given.length steps)
    (real : List.Forall₂ w.Realizes coming (Step.producers steps))
    (linear : ∀ p ∈ nodesAll coming, p.Linear)
    (hb : n + growth b.plans + (nodesAll coming).length ≤ MarkerSource.lastNumber)
    (hf : w.fuel + (nodesAll b.plans).length + (nodesAll coming).length + 2 < fuel) :
    ∃ s', (Engine.ofFuel fuel).runContent
        (Step.program (numbers.map (Marker.numbered w.nonce)) steps) s =
      some (.ok (s.request.output ++ Piece.join (b.reading w.nonce) ps ++
        Step.transcript w.nonce n b.plans given coming steps), s') := by
  induction steps generalizing n b ps numbers live given coming s with
  | nil =>
    obtain ⟨s', hfinish⟩ := h.finish hn fuel (by omega) (by omega)
    refine ⟨s', ?_⟩
    simp only [Step.program, Engine.runContent, Engine.perform, hfinish, Option.bind_eq_bind,
      Option.bind_some, Step.transcript]
  | cons step steps ih =>
    cases step with
    | print qs =>
      obtain ⟨plain, nodup, live', placed⟩ := placed
      have h₁ := h.print (Piece.plain_renumber.mpr plain) (hand.renumber_known live')
        (hand.renumber_once h.sound live' nodup)
      obtain ⟨s', hrun⟩ := ih h₁ (hand.print live') placed real linear hb hf
      refine ⟨s', ?_⟩
      rw [Piece.join_append, hand.reading_eq live'] at hrun
      simp only [Step.program, Engine.runContent, Engine.perform, Option.bind_eq_bind,
        Option.bind_some, hand.place_eq live', Step.transcript]
      rw [hrun]
      simp [State.print, String.append_assoc]
    | defer c =>
      obtain ⟨p, coming, hp, rest, rfl⟩ := List.forall₂_cons_right_iff.mp real
      simp only [nodesAll, List.length_append, List.mem_append] at linear hb hf
      have hself : 0 < p.nodes.length := by simp [nodes_eq]
      have hlen := length_le_nodesAll b.plans
      obtain ⟨s₁, hdefer, h₁, hout⟩ :=
        h.defer hp (fun q hq => linear q (Or.inl hq)) (by omega)
      have hplans : Backlog.plans (b ++ [(n + 1, p)]) = b.plans ++ [p] := Backlog.plans_append _ _
      have hnodes : (nodesAll (b.plans ++ [p])).length =
          (nodesAll b.plans).length + p.nodes.length := by
        simp [nodesAll_append, nodesAll]
      have hgrow : n + 1 + growth (b.plans ++ [p]) = n + growth b.plans + p.nodes.length := by
        simp only [growth, hnodes, List.length_append, List.length_singleton]
        omega
      obtain ⟨s', hrun⟩ := ih h₁ (hand.defer h.sound p) (by simpa [Step.Placed] using placed) rest
        (fun q hq => linear q (Or.inr hq)) (by rw [hplans]; omega) (by rw [hplans]; omega)
      refine ⟨s', ?_⟩
      have hread : Piece.join (Backlog.reading w.nonce (b ++ [(n + 1, p)])) ps =
          Piece.join (b.reading w.nonce) ps :=
        Piece.join_congr fun i hi => Backlog.reading_enter (h.sound.known i hi) [p]
      rw [hplans, hread, hout, List.map_append] at hrun
      simp only [Step.program, Engine.runContent, hdefer, Step.transcript]
      exact hrun
    | flush =>
      obtain ⟨s₁, hflush, h₁, hout⟩ := h.flush hn fuel (by omega) (by omega)
      obtain ⟨s', hrun⟩ := ih h₁ (hand.flush (Nat.le_add_right _ _) _) placed real linear
        (by simpa [Backlog.plans, growth, nodesAll] using hb)
        (by simp only [Backlog.plans, List.map_nil, nodesAll, List.length_nil]; omega)
      refine ⟨s', ?_⟩
      have hread : Piece.join (Backlog.reading w.nonce []) (drainPrints n b.plans) =
          Piece.raw w.nonce (drainPrints n b.plans) := rfl
      rw [hread, hout] at hrun
      simp only [Step.program, Engine.runContent, Engine.perform, hflush, Option.bind_eq_bind,
        Option.bind_some, Step.transcript]
      rw [hrun]
      simp [Backlog.plans, String.append_assoc]

end PageFilters
