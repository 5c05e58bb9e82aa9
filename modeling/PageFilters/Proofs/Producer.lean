import PageFilters.Proofs.Plan
import PageFilters.Proofs.Rendering
import Mathlib.Data.List.Forall2

namespace PageFilters

/-- Registers producers in order and goes on with the markers handed out. -/
def Content.register : List Content → List Marker → (List Marker → Content) → Content
  | [], handed, k => k handed
  | c :: cs, handed, k => .defer c fun
    | .ok marker => register cs (handed ++ [marker]) k
    | .error error => .fail error

namespace Plan

mutual

/-- A producer that does what the plan says. -/
def content : Plan → Content
  | node children printed returned => .register (contentAll children) [] fun handed =>
    .perform (.print (Piece.place handed printed)) fun () => .literal (Piece.place handed returned)

def contentAll : List Plan → List Content
  | [] => []
  | p :: ps => p.content :: contentAll ps

end

theorem contentAll_eq_map (ps : List Plan) : contentAll ps = ps.map content := by
  induction ps with
  | nil => rfl
  | cons p ps ih => simp only [contentAll, ih, List.map_cons]

end Plan

/-- What stays the same on a request while its producers run. -/
structure Setting where
  nonce : String
  filters : Registry
  cache : Cache
  /-- An amount of fuel on which each producer runs. -/
  fuel : Nat

namespace Setting

/-- An unfinished request with `n` markers issued. -/
structure Holds (w : Setting) (n : Nat) (s : State) : Prop where
  filters : s.request.filters = w.filters
  markers : s.request.markers = .distinct w.nonce n
  unfinished : s.request.finished = false
  cache : s.cache = w.cache

/-- The second state comes from the first by printing `text` and registering producers. -/
structure Extends (w : Setting) (n : Nat) (s : State) (text : String) (entries : List Pending)
    (s' : State) : Prop where
  holds : w.Holds (n + entries.length) s'
  buffer : s'.request.buffer = s.request.buffer ++ text
  output : s'.request.output = s.request.output
  pending : s'.request.queue.pending = s.request.queue.pending ++ entries
  numbered : entries.map Pending.marker =
    (List.range' (n + 1) entries.length).map (Marker.numbered w.nonce)

/-- Parts whose numbers count producers registered after `n` markers were issued. -/
def text (w : Setting) (n : Nat) (ps : List Piece) : String :=
  Piece.raw w.nonce (ps.map (Piece.renumber (n + 1 + ·)))

mutual

/-- On every unfinished request the content does what the plan says and nothing else, as long as
sequence numbers grow. -/
def Realizes (w : Setting) : Plan → Content → Prop
  | .node children printed returned, c =>
    ∀ fuel n s, w.fuel ≤ fuel → w.Holds n s → n + children.length ≤ MarkerSource.lastNumber →
      ∃ entries s',
        (Engine.ofFuel fuel).runContent c s = some (.ok (w.text n returned), s') ∧
        w.Extends n s (w.text n printed) entries s' ∧
        RealizesAll w children (entries.map Pending.producer)

def RealizesAll (w : Setting) : List Plan → List Content → Prop
  | [], [] => True
  | p :: ps, c :: cs => Realizes w p c ∧ RealizesAll w ps cs
  | _, _ => False

end

variable {w : Setting}

theorem realizesAll_iff {ps : List Plan} {cs : List Content} :
    w.RealizesAll ps cs ↔ List.Forall₂ w.Realizes ps cs := by
  induction ps generalizing cs with
  | nil => cases cs <;> simp [RealizesAll]
  | cons p ps ih => cases cs <;> simp [RealizesAll, ih]

theorem realizes_iff {p : Plan} {c : Content} :
    w.Realizes p c ↔
      ∀ fuel n s, w.fuel ≤ fuel → w.Holds n s → n + p.children.length ≤ MarkerSource.lastNumber →
        ∃ entries s',
          (Engine.ofFuel fuel).runContent c s = some (.ok (w.text n p.returned), s') ∧
          w.Extends n s (w.text n p.printed) entries s' ∧
          List.Forall₂ w.Realizes p.children (entries.map Pending.producer) := by
  cases p
  simp only [Realizes, realizesAll_iff, Plan.children, Plan.printed, Plan.returned]

theorem Extends.refl {n : Nat} {s : State} (h : w.Holds n s) : w.Extends n s "" [] s where
  holds := h
  buffer := by simp
  output := rfl
  pending := by simp
  numbered := rfl

theorem Extends.trans {n : Nat} {s s' s'' : State} {text text' : String}
    {entries entries' : List Pending} (h : w.Extends n s text entries s')
    (h' : w.Extends (n + entries.length) s' text' entries' s'') :
    w.Extends n s (text ++ text') (entries ++ entries') s'' where
  holds := by simpa [Nat.add_assoc] using h'.holds
  buffer := by rw [h'.buffer, h.buffer, String.append_assoc]
  output := h'.output.trans h.output
  pending := by rw [h'.pending, h.pending, List.append_assoc]
  numbered := by
    rw [List.map_append, h.numbered, h'.numbered, List.length_append, ← List.map_append,
      show n + entries.length + 1 = n + 1 + 1 * entries.length by omega, List.range'_append]

theorem Holds.defer {n : Nat} {s : State} (h : w.Holds n s)
    (hn : n + 1 ≤ MarkerSource.lastNumber) (c : Content) :
    ∃ s', s.defer c = (.ok (.numbered w.nonce (n + 1)), s') ∧
      w.Extends n s "" [⟨s.request.queue.registered + 1, .numbered w.nonce (n + 1), c⟩] s' := by
  have hmin : min (n + 1) MarkerSource.lastNumber = n + 1 := Nat.min_eq_left hn
  have hnext : s.request.markers.next = (.numbered w.nonce (n + 1), .distinct w.nonce (n + 1)) := by
    simp [h.markers, MarkerSource.next, hmin]
  refine ⟨(s.defer c).2, ?_, ?_⟩
  · simp [State.defer, h.unfinished, hnext]
  · simp only [State.defer, h.unfinished, hnext, Bool.false_eq_true, ↓reduceIte]
    exact
      { holds := ⟨h.filters, rfl, rfl, h.cache⟩
        buffer := by simp [State.record]
        output := rfl
        pending := rfl
        numbered := rfl }

theorem Holds.print {n : Nat} {s : State} (h : w.Holds n s) (text : String) :
    w.Extends n s text [] (s.print text) where
  holds := ⟨h.filters, h.markers, h.unfinished, h.cache⟩
  buffer := rfl
  output := rfl
  pending := by simp [State.print]
  numbered := rfl

theorem Holds.register {n : Nat} {s : State} (h : w.Holds n s) (e : Engine) (cs : List Content)
    (handed : List Marker) (k : List Marker → Content)
    (hn : n + cs.length ≤ MarkerSource.lastNumber) :
    ∃ entries s', entries.map Pending.producer = cs ∧ w.Extends n s "" entries s' ∧
      e.runContent (.register cs handed k) s =
        e.runContent (k (handed ++ (List.range' (n + 1) cs.length).map (.numbered w.nonce)))
          s' := by
  induction cs generalizing n s handed with
  | nil => exact ⟨[], s, rfl, .refl h, by simp [Content.register]⟩
  | cons c cs ih =>
    rw [List.length_cons] at hn
    obtain ⟨s₁, hdefer, h₁⟩ := h.defer (by omega) c
    obtain ⟨entries, s', hcs, h', hrun⟩ :=
      ih h₁.holds (handed ++ [.numbered w.nonce (n + 1)])
        (by simp only [List.length_singleton]; omega)
    refine ⟨_, s', ?_, h₁.trans h', ?_⟩
    · simp [hcs]
    · simp only [Content.register, Engine.runContent, hdefer]
      rw [hrun]
      simp [List.range'_succ]

theorem place_numbered {m : Nat} {ps : List Piece} (n : Nat) (h : ∀ i ∈ Piece.indices ps, i < m) :
    Piece.place ((List.range' (n + 1) m).map (.numbered w.nonce)) ps = w.text n ps := by
  rw [text, Piece.raw, Piece.join_renumber, Piece.place]
  apply Piece.join_congr
  intro i hi
  simp [h i hi]

theorem realizes_content {p : Plan} (h : ∀ q ∈ p.nodes, q.Linear) : w.Realizes p p.content := by
  induction p using Plan.rise with
  | step p ih =>
    rw [realizes_iff]
    intro fuel n s _ hs hn
    have hp : p.Linear := h p (by simp [Plan.nodes_eq])
    have hcontent : p.content = .register (p.children.map Plan.content) [] fun handed =>
        .perform (.print (Piece.place handed p.printed)) fun () =>
          .literal (Piece.place handed p.returned) := by
      cases p
      simp only [Plan.content, Plan.contentAll_eq_map, Plan.children, Plan.printed, Plan.returned]
    obtain ⟨entries, s', hcs, h', hrun⟩ := hs.register (Engine.ofFuel fuel)
      (p.children.map Plan.content) [] (fun handed =>
        .perform (.print (Piece.place handed p.printed)) fun () =>
          .literal (Piece.place handed p.returned)) (by simpa using hn)
    have hprint := h'.trans (h'.holds.print (w.text n p.printed))
    rw [String.empty_append, List.append_nil] at hprint
    refine ⟨entries, _, ?_, hprint, ?_⟩
    · rw [hcontent, hrun, List.length_map, List.nil_append]
      simp only [Engine.runContent, Engine.perform, Content.literal, Option.bind_eq_bind,
        Option.bind_some]
      rw [place_numbered n fun i hi => hp.2.2.2 i (by simp [Piece.indices_append, hi]),
        place_numbered n fun i hi => hp.2.2.2 i (by simp [Piece.indices_append, hi])]
    · rw [hcs, List.forall₂_map_right_iff, List.forall₂_same]
      intro q hq
      refine ih q hq fun r hr => h r ?_
      rw [Plan.nodes_eq]
      exact List.mem_cons_of_mem _ (Plan.mem_nodesAll.mpr ⟨q, hq, hr⟩)

end Setting

end PageFilters
