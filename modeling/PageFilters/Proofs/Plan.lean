import PageFilters.Proofs.Piece

namespace PageFilters

/-- What a deferred producer does with its request: it registers producers of its own, prints a
text and returns a text. Numbers in the texts count the producers registered, from zero. -/
inductive Plan where
  | node (children : List Plan) (printed returned : List Piece)

namespace Plan

def children : Plan → List Plan
  | node children _ _ => children

def printed : Plan → List Piece
  | node _ printed _ => printed

def returned : Plan → List Piece
  | node _ _ returned => returned

mutual

/-- The text that a producer returns, with the texts of its own producers in place. -/
def expand : Plan → String
  | node children _ returned => Piece.join (fun i => (expandAll children).getD i "") returned

def expandAll : List Plan → List String
  | [] => []
  | p :: ps => p.expand :: expandAll ps

end

mutual

/-- A plan and all plans below it. -/
def nodes : Plan → List Plan
  | node children printed returned => node children printed returned :: nodesAll children

def nodesAll : List Plan → List Plan
  | [] => []
  | p :: ps => p.nodes ++ nodesAll ps

end

/-- Every producer registered is used at most once, and the texts hold no other marker. -/
def Linear (p : Plan) : Prop :=
  Piece.Plain p.printed ∧ Piece.Plain p.returned ∧
    (Piece.indices (p.printed ++ p.returned)).Nodup ∧
    ∀ i ∈ Piece.indices (p.printed ++ p.returned), i < p.children.length

instance (p : Plan) : Decidable p.Linear :=
  inferInstanceAs (Decidable (_ ∧ _ ∧ _ ∧ _))

theorem expandAll_eq_map (ps : List Plan) : expandAll ps = ps.map expand := by
  induction ps with
  | nil => rfl
  | cons p ps ih => simp only [expandAll, ih, List.map_cons]

theorem expand_eq (p : Plan) :
    p.expand = Piece.join (fun i => (p.children.map expand).getD i "") p.returned := by
  cases p
  simp only [expand, expandAll_eq_map, children, returned]

theorem nodes_eq (p : Plan) : p.nodes = p :: nodesAll p.children := by
  cases p
  rfl

theorem nodesAll_cons (p : Plan) (ps : List Plan) :
    nodesAll (p :: ps) = p :: (nodesAll p.children ++ nodesAll ps) := by
  simp [nodesAll, nodes_eq]

theorem nodesAll_append (ps qs : List Plan) :
    nodesAll (ps ++ qs) = nodesAll ps ++ nodesAll qs := by
  induction ps with
  | nil => rfl
  | cons p ps ih => simp [nodesAll, ih]

theorem length_le_nodesAll (ps : List Plan) : ps.length ≤ (nodesAll ps).length := by
  induction ps with
  | nil => simp [nodesAll]
  | cons p ps ih =>
    simp only [nodesAll_cons, List.length_cons, List.length_append]
    omega

theorem nodesAll_step (p : Plan) (ps : List Plan) :
    (nodesAll (p :: ps)).length = (nodesAll (ps ++ p.children)).length + 1 := by
  simp only [nodesAll_cons, nodesAll_append, List.length_cons, List.length_append]
  omega

theorem mem_nodesAll_step {p q : Plan} {ps : List Plan} :
    q ∈ nodesAll (p :: ps) ↔ q = p ∨ q ∈ nodesAll (ps ++ p.children) := by
  simp only [nodesAll_cons, nodesAll_append, List.mem_cons, List.mem_append]
  tauto

theorem mem_nodesAll_self {p : Plan} {ps : List Plan} (h : p ∈ ps) : p ∈ nodesAll ps := by
  obtain ⟨before, after, he⟩ := List.append_of_mem h
  simp [he, nodesAll_append, nodesAll_cons]

theorem forall_nodesAll_push {P : Plan → Prop} {p : Plan} {queue coming : List Plan}
    (hq : ∀ q ∈ nodesAll queue, P q) (hc : ∀ q ∈ nodesAll (p :: coming), P q) :
    (∀ q ∈ nodesAll (queue ++ [p]), P q) ∧ ∀ q ∈ nodesAll coming, P q := by
  simp only [nodesAll, List.mem_append] at hc
  constructor
  · intro q hm
    rw [nodesAll_append, List.mem_append] at hm
    rcases hm with hm | hm
    · exact hq q hm
    · exact hc q (Or.inl (by simpa [nodesAll] using hm))
  · intro q hm
    exact hc q (Or.inr hm)

/-- What the producers of a queue print when it is drained, `n` markers being issued before. -/
def drainPrints (n : Nat) : List Plan → List Piece
  | [] => []
  | p :: ps =>
    p.printed.map (Piece.renumber (n + 1 + ·)) ++
      drainPrints (n + p.children.length) (ps ++ p.children)
termination_by ps => (nodesAll ps).length
decreasing_by
  rw [nodesAll_step]
  omega

/-- How many producers are registered while a queue is drained. -/
def growth (ps : List Plan) : Nat := (nodesAll ps).length - ps.length

theorem growth_step (p : Plan) (ps : List Plan) :
    growth (p :: ps) = p.children.length + growth (ps ++ p.children) := by
  have hb := length_le_nodesAll (ps ++ p.children)
  have hs := nodesAll_step p ps
  simp only [growth, List.length_cons, List.length_append] at *
  omega

theorem rise {motive : Plan → Prop}
    (step : ∀ p : Plan, (∀ q ∈ p.children, motive q) → motive p) (p : Plan) : motive p := by
  cases p with
  | node children printed returned =>
    apply step
    intro q hq
    have hlt : sizeOf q < sizeOf children := List.sizeOf_lt_of_mem hq
    exact rise step q
termination_by sizeOf p
decreasing_by
  simp only [node.sizeOf_spec]
  omega

theorem mem_nodesAll {q : Plan} {ps : List Plan} : q ∈ nodesAll ps ↔ ∃ p ∈ ps, q ∈ p.nodes := by
  induction ps with
  | nil => simp [nodesAll]
  | cons p ps ih => simp [nodesAll, ih]

/-- A plan expands to an ordinary text if it is linear, and all plans below it are. -/
theorem expand_ordinary {p : Plan} (h : ∀ q ∈ p.nodes, q.Linear) : Ordinary p.expand.toList := by
  induction p using rise with
  | step p ih =>
    rw [expand_eq]
    apply Piece.join_ordinary (h p (by simp [nodes_eq])).2.1
    intro i hi
    by_cases hc : i < p.children.length
    · have hm : p.children[i] ∈ p.children := List.getElem_mem hc
      have hh : Ordinary p.children[i].expand.toList := by
        apply ih _ hm
        intro q hq
        exact h q (by rw [nodes_eq]; exact List.mem_cons_of_mem _ (mem_nodesAll.mpr ⟨_, hm, hq⟩))
      simpa [hc] using hh
    · simpa [hc] using ordinary_nil

end Plan

end PageFilters
