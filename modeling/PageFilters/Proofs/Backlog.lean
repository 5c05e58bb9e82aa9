import PageFilters.Proofs.Plan
import Mathlib.Data.List.Nodup

namespace PageFilters

/-- Plans of producers that wait, with the numbers of their markers. -/
abbrev Backlog := List (Nat × Plan)

namespace Backlog

/-- Plans with numbers that follow `n`. -/
def enter (n : Nat) : List Plan → Backlog
  | [] => []
  | p :: ps => (n + 1, p) :: enter (n + 1) ps

def plans (b : Backlog) : List Plan := b.map Prod.snd

/-- What will stand in place of a marker, which is the marker itself if no producer waits for it. -/
def reading (nonce : String) (b : Backlog) (i : Nat) : String :=
  ((b.lookup i).map Plan.expand).getD (Marker.numbered nonce i).text

/-- Producers wait for different markers out of the first `n`, and none of these stands twice among
the parts of the buffer. -/
structure Sound (n : Nat) (b : Backlog) (ps : List Piece) : Prop where
  distinct : (b.map Prod.fst).Nodup
  issued : ∀ q ∈ b, q.1 ≤ n
  linear : ∀ p ∈ Plan.nodesAll b.plans, p.Linear
  plain : Piece.Plain ps
  known : ∀ i ∈ Piece.indices ps, i ≤ n
  once : ∀ q ∈ b, (Piece.indices ps).count q.1 ≤ 1

theorem enter_plans (n : Nat) (ps : List Plan) : (enter n ps).plans = ps := by
  induction ps generalizing n with
  | nil => rfl
  | cons p ps ih => simpa [enter, plans] using ih (n + 1)

theorem enter_numbers (n : Nat) (ps : List Plan) :
    (enter n ps).map Prod.fst = List.range' (n + 1) ps.length := by
  induction ps generalizing n with
  | nil => rfl
  | cons p ps ih => simp [enter, ih, List.range'_succ]

theorem plans_append (b c : Backlog) : plans (b ++ c) = b.plans ++ c.plans :=
  List.map_append

theorem lookup_enter (n : Nat) (ps : List Plan) (i : Nat) :
    (enter n ps).lookup (n + 1 + i) = ps[i]? := by
  induction ps generalizing n i with
  | nil => rfl
  | cons p ps ih =>
    cases i with
    | zero => simp [enter]
    | succ i =>
      have hne : (n + 1 + (i + 1) == n + 1) = false := beq_eq_false_iff_ne.mpr (by omega)
      have hh := ih (n + 1) i
      rw [show n + 1 + 1 + i = n + 1 + (i + 1) by omega] at hh
      simp only [enter, List.lookup_cons, hne, hh, List.getElem?_cons_succ]

theorem lookup_enter_of_le {n i : Nat} (h : i ≤ n) (ps : List Plan) :
    (enter n ps).lookup i = none := by
  rw [List.lookup_eq_none_iff]
  intro q hq
  have hm : q.1 ∈ List.range' (n + 1) ps.length := by
    rw [← enter_numbers n ps]
    exact List.mem_map_of_mem hq
  have hr := List.mem_range'_1.mp hm
  simp
  omega

theorem lookup_of_lt {n i : Nat} {b : Backlog} (h : ∀ q ∈ b, q.1 ≤ n) (hi : n < i) :
    b.lookup i = none := by
  rw [List.lookup_eq_none_iff]
  intro q hq
  have hb := h q hq
  simp
  omega

section Step

variable {nonce : String} {n k : Nat} {p : Plan} {b : Backlog} {ps : List Piece}

theorem reading_enter {i : Nat} (hi : i ≤ n) (qs : List Plan) :
    reading nonce (b ++ enter n qs) i = reading nonce b i := by
  simp only [reading, List.lookup_append, lookup_enter_of_le hi, Option.or_none]

/-- Readings of markers issued before do not change when the first producer runs. -/
theorem reading_step_old (i : Nat) (hi : i ≤ n) (hk : i ≠ k) :
    reading nonce (b ++ enter n p.children) i = reading nonce ((k, p) :: b) i := by
  have hki : (i == k) = false := by simpa using hk
  rw [reading_enter hi]
  simp only [reading, List.lookup_cons, hki]

theorem reading_step_self : reading nonce ((k, p) :: b) k = p.expand := by
  simp [reading]

/-- The parts that the first producer returns read as the expansion of its plan. -/
theorem join_returned (hb : ∀ q ∈ b, q.1 ≤ n) (hp : p.Linear) :
    Piece.join (reading nonce (b ++ enter n p.children))
      (p.returned.map (Piece.renumber (n + 1 + ·))) = p.expand := by
  rw [Piece.join_renumber, p.expand_eq]
  apply Piece.join_congr
  intro i hi
  have hlt : i < p.children.length := hp.2.2.2 i (by simp [Piece.indices_append, hi])
  have hnone : b.lookup (n + 1 + i) = none := lookup_of_lt hb (by omega)
  simp [reading, List.lookup_append, hnone, lookup_enter, hlt]

theorem sound_tail (h : Sound n ((k, p) :: b) ps) : Sound n b ps where
  distinct := (List.nodup_cons.mp h.distinct).2
  issued := fun q hq => h.issued q (List.mem_cons_of_mem _ hq)
  linear := by
    intro q hq
    apply h.linear
    simp only [plans, List.map_cons, Plan.nodesAll_cons, List.mem_cons, List.mem_append] at hq ⊢
    exact Or.inr (Or.inr hq)
  plain := h.plain
  known := h.known
  once := fun q hq => h.once q (List.mem_cons_of_mem _ hq)

theorem numbers_step (hb : ∀ q ∈ b, q.1 ≤ n) (hd : (b.map Prod.fst).Nodup) (ps : List Plan) :
    ((b ++ enter n ps).map Prod.fst).Nodup ∧
      ∀ q ∈ b ++ enter n ps, q.1 ≤ n + ps.length := by
  have range : ∀ q ∈ enter n ps, n < q.1 ∧ q.1 ≤ n + ps.length := by
    intro q hq
    have hm : q.1 ∈ (enter n ps).map Prod.fst := List.mem_map_of_mem hq
    rw [enter_numbers, List.mem_range'_1] at hm
    omega
  constructor
  · rw [List.map_append, List.nodup_append, enter_numbers]
    refine ⟨hd, List.nodup_range', ?_⟩
    intro i hi j hj
    obtain ⟨q, hq, rfl⟩ := List.mem_map.mp hi
    have hle := hb q hq
    rw [List.mem_range'_1] at hj
    omega
  · intro q hq
    rcases List.mem_append.mp hq with hq | hq
    · have := hb q hq
      omega
    · exact (range q hq).2

theorem once_enter {qs : List Piece} (known : ∀ i ∈ Piece.indices qs, i ≤ n) (ps : List Plan) :
    ∀ q ∈ enter n ps, (Piece.indices qs).count q.1 = 0 := by
  intro q hq
  rw [List.count_eq_zero]
  intro hi
  have hle := known q.1 hi
  have hm : q.1 ∈ (enter n ps).map Prod.fst := List.mem_map_of_mem hq
  rw [enter_numbers, List.mem_range'_1] at hm
  omega

/-- Nothing changes for the buffer when a producer runs whose marker is not in it. -/
theorem sound_step_missing (h : Sound n ((k, p) :: b) ps) :
    Sound (n + p.children.length) (b ++ enter n p.children) ps := by
  have ht := sound_tail h
  obtain ⟨distinct, issued⟩ := numbers_step ht.issued ht.distinct p.children
  refine ⟨distinct, issued, ?_, h.plain, ?_, ?_⟩
  · intro q hq
    rw [plans_append, enter_plans] at hq
    exact h.linear q (Plan.mem_nodesAll_step.mpr (Or.inr hq))
  · intro i hi
    have := h.known i hi
    omega
  · intro q hq
    rcases List.mem_append.mp hq with hq | hq
    · exact ht.once q hq
    · have := once_enter h.known p.children q hq
      omega

theorem renumber_bounds (n : Nat) {qs : List Piece} {m : Nat} (hm : ∀ i ∈ Piece.indices qs, i < m) :
    ∀ i ∈ Piece.indices (qs.map (Piece.renumber (n + 1 + ·))), n < i ∧ i ≤ n + m := by
  intro i hi
  rw [Piece.indices_renumber, List.mem_map] at hi
  obtain ⟨j, hj, rfl⟩ := hi
  have := hm j hj
  omega

theorem returned_fresh (hb : ∀ q ∈ b, q.1 ≤ n) (hp : p.Linear) :
    let qs := p.returned.map (Piece.renumber (n + 1 + ·))
    Piece.Plain qs ∧ (∀ i ∈ Piece.indices qs, i ≤ n + p.children.length) ∧
      (∀ q ∈ b, (Piece.indices qs).count q.1 = 0) ∧ ∀ k, (Piece.indices qs).count k ≤ 1 := by
  have hreturned : ∀ i ∈ Piece.indices p.returned, i < p.children.length :=
    fun i hi => hp.2.2.2 i (by simp [Piece.indices_append, hi])
  have bounds := renumber_bounds n hreturned
  have nodup : (Piece.indices (p.returned.map (Piece.renumber (n + 1 + ·)))).Nodup := by
    have hr := hp.2.2.1
    rw [Piece.indices_append, List.nodup_append] at hr
    rw [Piece.indices_renumber]
    exact List.Nodup.map (fun i j hij => by simpa using hij) hr.2.1
  refine ⟨Piece.plain_renumber.mpr hp.2.1, fun i hi => (bounds i hi).2, ?_,
    List.nodup_iff_count.mp nodup⟩
  intro q hq
  rw [List.count_eq_zero]
  intro hi
  have hold := hb q hq
  have hnew := (bounds q.1 hi).1
  omega

/-- The parts that a producer returns may stand where its marker stood. -/
theorem sound_step_found {before after : List Piece}
    (h : Sound n ((k, p) :: b) (before ++ Piece.marker k :: after)) :
    Sound (n + p.children.length) (b ++ enter n p.children)
      (before ++ p.returned.map (Piece.renumber (n + 1 + ·)) ++ after) := by
  have hp : p.Linear := h.linear p (Plan.mem_nodesAll_self (by simp [plans]))
  have ht := sound_tail h
  obtain ⟨distinct, issued⟩ := numbers_step ht.issued ht.distinct p.children
  obtain ⟨hplain, hknown, hold, hnew⟩ := returned_fresh ht.issued hp
  have plain := h.plain
  have known := h.known
  rw [Piece.plain_append] at plain
  rw [Piece.indices_append, Piece.indices] at known
  refine ⟨distinct, issued, ?_, ?_, ?_, ?_⟩
  · intro q hq
    rw [plans_append, enter_plans] at hq
    exact h.linear q (Plan.mem_nodesAll_step.mpr (Or.inr hq))
  · rw [Piece.plain_append, Piece.plain_append]
    exact ⟨⟨plain.1, hplain⟩, plain.2⟩
  · intro i hi
    simp only [Piece.indices_append, List.mem_append] at hi
    rcases hi with (hi | hi) | hi
    · have := known i (by simp [hi])
      omega
    · exact hknown i hi
    · have := known i (by simp [hi])
      omega
  · intro q hq
    rw [Piece.indices_append, Piece.indices_append, List.count_append, List.count_append]
    rcases List.mem_append.mp hq with hq | hq
    · have honce := ht.once q hq
      have hzero := hold q hq
      rw [Piece.indices_append, Piece.indices, List.count_append, List.count_cons] at honce
      omega
    · have hb : (Piece.indices before).count q.1 = 0 :=
        once_enter (fun i hi => known i (by simp [hi])) p.children q hq
      have ha : (Piece.indices after).count q.1 = 0 :=
        once_enter (fun i hi => known i (by simp [hi])) p.children q hq
      have hr := hnew q.1
      omega

theorem sound_append (h : Sound n b ps) (hp : ∀ q ∈ p.nodes, q.Linear) :
    Sound (n + p.children.length) (b ++ enter n p.children)
      (ps ++ p.returned.map (Piece.renumber (n + 1 + ·))) := by
  obtain ⟨distinct, issued⟩ := numbers_step h.issued h.distinct p.children
  obtain ⟨hplain, hknown, hold, hnew⟩ := returned_fresh h.issued (hp p (by simp [Plan.nodes_eq]))
  refine ⟨distinct, issued, ?_, Piece.plain_append.mpr ⟨h.plain, hplain⟩, ?_, ?_⟩
  · intro q hq
    rw [plans_append, enter_plans, Plan.nodesAll_append, List.mem_append] at hq
    rcases hq with hq | hq
    · exact h.linear q hq
    · exact hp q (by rw [Plan.nodes_eq]; exact List.mem_cons_of_mem _ hq)
  · intro i hi
    rw [Piece.indices_append, List.mem_append] at hi
    rcases hi with hi | hi
    · have := h.known i hi
      omega
    · exact hknown i hi
  · intro q hq
    rw [Piece.indices_append, List.count_append]
    rcases List.mem_append.mp hq with hq | hq
    · have honce := h.once q hq
      have hzero := hold q hq
      omega
    · have hzero := once_enter h.known p.children q hq
      have hr := hnew q.1
      omega

theorem join_append_returned (nonce : String) (h : Sound n b ps) (hp : p.Linear) :
    Piece.join (reading nonce (b ++ enter n p.children))
        (ps ++ p.returned.map (Piece.renumber (n + 1 + ·))) =
      Piece.join (reading nonce b) ps ++ p.expand := by
  have hps : Piece.join (reading nonce (b ++ enter n p.children)) ps =
      Piece.join (reading nonce b) ps :=
    Piece.join_congr fun i hi => reading_enter (h.known i hi) p.children
  rw [Piece.join_append, hps, join_returned h.issued hp]

theorem join_step_missing (known : ∀ i ∈ Piece.indices ps, i ≤ n) (hk : k ∉ Piece.indices ps) :
    Piece.join (reading nonce (b ++ enter n p.children)) ps =
      Piece.join (reading nonce ((k, p) :: b)) ps := by
  apply Piece.join_congr
  intro i hi
  exact reading_step_old i (known i hi) fun he => hk (he ▸ hi)

/-- What a buffer will read in the end is the same before and after a producer runs. -/
theorem join_step_found {before after : List Piece}
    (h : Sound n ((k, p) :: b) (before ++ Piece.marker k :: after)) :
    Piece.join (reading nonce (b ++ enter n p.children))
        (before ++ p.returned.map (Piece.renumber (n + 1 + ·)) ++ after) =
      Piece.join (reading nonce ((k, p) :: b)) (before ++ Piece.marker k :: after) := by
  have hp : p.Linear := h.linear p (Plan.mem_nodesAll_self (by simp [plans]))
  have ht := sound_tail h
  have honce := h.once (k, p) (by simp)
  have known := h.known
  simp only [Piece.indices_append, Piece.indices, List.count_append, List.count_cons_self] at honce
  simp only [Piece.indices_append, Piece.indices, List.mem_append, List.mem_cons] at known
  -- The marker stands once among the parts, so it is neither before nor after itself.
  have hbefore : k ∉ Piece.indices before := List.count_eq_zero.mp (by omega)
  have hafter : k ∉ Piece.indices after := List.count_eq_zero.mp (by omega)
  simp only [Piece.join_append, Piece.join, join_returned ht.issued hp,
    join_step_missing (fun i hi => known i (Or.inl hi)) hbefore,
    join_step_missing (fun i hi => known i (Or.inr (Or.inr hi))) hafter,
    reading_step_self, String.append_assoc]

end Step

end Backlog

end PageFilters
