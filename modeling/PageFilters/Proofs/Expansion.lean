import PageFilters.Proofs.Session

namespace PageFilters

open Plan

theorem Plan.drainPrints_silent {n : Nat} {ps : List Plan}
    (h : ∀ p ∈ nodesAll ps, p.printed = []) : drainPrints n ps = [] := by
  induction n, ps using drainPrints.induct with
  | case1 n => rw [drainPrints]
  | case2 n p ps ih =>
    have hp : p.printed = [] := h p (mem_nodesAll_self (by simp))
    rw [drainPrints_cons, hp, ih fun q hq => h q (mem_nodesAll_step.mpr (Or.inr hq))]
    rfl

/-- A drain prints a marker if one of the producers that run in it does. -/
theorem Plan.drainPrints_indices_eq_nil_iff {n : Nat} {ps : List Plan} :
    Piece.indices (drainPrints n ps) = [] ↔ ∀ p ∈ nodesAll ps, Piece.indices p.printed = [] := by
  induction n, ps using drainPrints.induct with
  | case1 n => simp [drainPrints, nodesAll, Piece.indices]
  | case2 n p ps ih =>
    rw [drainPrints_cons, Piece.indices_append, List.append_eq_nil_iff, ih,
      Piece.indices_renumber, List.map_eq_nil_iff]
    constructor
    · rintro ⟨hp, hps⟩ q hq
      rcases mem_nodesAll_step.mp hq with rfl | hq
      · exact hp
      · exact hps q hq
    · intro h
      exact ⟨h p (mem_nodesAll_self (by simp)),
        fun q hq => h q (mem_nodesAll_step.mpr (Or.inr hq))⟩

theorem Piece.marker_infix_raw {nonce : String} {k : Nat} {ps : List Piece} (h : k ∈ indices ps) :
    (Marker.numbered nonce k).text.toList <:+: (raw nonce ps).toList := by
  obtain ⟨before, after, rfl, _⟩ := exists_first_marker h
  refine ⟨(raw nonce before).toList, (raw nonce after).toList, ?_⟩
  simp [raw, join_append, join]

theorem Marker.not_infix_of_ordinary {nonce : String} {cs : List Char} (h : Ordinary cs) (k : Nat) :
    ¬ (numbered nonce k).text.toList <:+: cs := by
  intro hi
  apply h.1
  apply hi.subset
  rw [numbered_toList]
  exact List.mem_cons_self

theorem Plan.drainPrints_ordinary {nonce : String} {n : Nat} {ps : List Plan}
    (h : ∀ p ∈ nodesAll ps, p.Linear ∧ Piece.indices p.printed = []) :
    Ordinary (Piece.raw nonce (drainPrints n ps)).toList := by
  have plain := (drainPrints_bounds (n := n) fun p hp => (h p hp).1).1
  have none : Piece.indices (drainPrints n ps) = [] :=
    drainPrints_indices_eq_nil_iff.mpr fun p hp => (h p hp).2
  exact Piece.join_ordinary plain (by simp [none])

theorem Plan.drainPrints_leaks (nonce : String) (n : Nat) {ps : List Plan} {p : Plan}
    (hp : p ∈ nodesAll ps) (h : Piece.indices p.printed ≠ []) :
    ∃ k, (Marker.numbered nonce k).text.toList <:+:
      (Piece.raw nonce (drainPrints n ps)).toList := by
  have some : Piece.indices (drainPrints n ps) ≠ [] :=
    fun none => h (drainPrints_indices_eq_nil_iff.mp none p hp)
  obtain ⟨k, hk⟩ := List.exists_mem_of_ne_nil _ some
  exact ⟨k, Piece.marker_infix_raw hk⟩

namespace Step

variable {nonce : String} {n : Nat} {queue given coming : List Plan} {live : List Nat}
  {steps : List Step}

/-- Without prints by producers a session returns what its own prints expand to. -/
theorem transcript_silent (placed : Placed live given.length steps)
    (hlive : ∀ i ∈ live, i < given.length) (hlen : coming.length = (producers steps).length)
    (hq : ∀ p ∈ nodesAll queue, p.printed = []) (hc : ∀ p ∈ nodesAll coming, p.printed = []) :
    transcript nonce n queue given coming steps =
      Piece.join (fun i => ((given ++ coming).map expand).getD i "") (parts steps) := by
  induction steps generalizing n queue given coming live with
  | nil => simp [transcript, parts, drainPrints_silent hq, Piece.raw, Piece.join]
  | cons step steps ih =>
    cases step with
    | print ps =>
      obtain ⟨_, _, known, placed⟩ := placed
      have hps : Piece.join (fun i => (given.map expand).getD i "") ps =
          Piece.join (fun i => ((given ++ coming).map expand).getD i "") ps := by
        apply Piece.join_congr
        intro i hi
        have hlt : i < (given.map expand).length := by simpa using hlive i (known i hi)
        rw [List.map_append, List.getD_eq_getElem?_getD, List.getD_eq_getElem?_getD,
          List.getElem?_append_left hlt]
      rw [transcript, parts, Piece.join_append, hps,
        ih placed (fun i hi => hlive i (List.mem_filter.mp hi).1) hlen hq hc]
    | defer c =>
      obtain ⟨p, coming, rfl⟩ : ∃ p rest, coming = p :: rest := by
        cases coming with
        | nil => simp [producers] at hlen
        | cons p rest => exact ⟨p, rest, rfl⟩
      obtain ⟨hqp, hrest⟩ := forall_nodesAll_push hq hc
      have placed' : Placed (given.length :: live) (given ++ [p]).length steps := by
        simpa [Placed] using placed
      have hlive' : ∀ i ∈ given.length :: live, i < (given ++ [p]).length := by
        intro i hi
        rw [List.length_append, List.length_singleton]
        rcases List.mem_cons.mp hi with rfl | hi
        · omega
        · have := hlive i hi
          omega
      rw [transcript, parts, ih placed' hlive' (by simpa [producers] using hlen) hqp hrest]
      simp
    | flush =>
      have placed' : Placed [] given.length steps := placed
      rw [transcript, parts, drainPrints_silent hq,
        ih placed' (by simp) hlen (by simp [nodesAll]) hc]
      simp [Piece.raw, Piece.join]

theorem transcript_ordinary (placed : Placed live given.length steps)
    (hg : ∀ p ∈ given, Ordinary p.expand.toList)
    (hq : ∀ p ∈ nodesAll queue, p.Linear ∧ Piece.indices p.printed = [])
    (hc : ∀ p ∈ nodesAll coming, p.Linear ∧ Piece.indices p.printed = []) :
    Ordinary (transcript nonce n queue given coming steps).toList := by
  induction steps generalizing n queue given coming live with
  | nil => exact drainPrints_ordinary hq
  | cons step steps ih =>
    cases step with
    | print ps =>
      obtain ⟨plain, _, _, placed⟩ := placed
      rw [transcript, String.toList_append, ordinary_append]
      refine ⟨Piece.join_ordinary plain ?_, ih placed hg hq hc⟩
      intro i _
      cases hi : given[i]? with
      | none => simpa [hi] using ordinary_nil
      | some p => simpa [hi] using hg p (List.mem_of_getElem? hi)
    | defer c =>
      cases coming with
      | nil => simpa [transcript] using ordinary_nil
      | cons p coming =>
        obtain ⟨hqp, hrest⟩ := forall_nodesAll_push hq hc
        have placed' : Placed (given.length :: live) (given ++ [p]).length steps := by
          simpa [Placed] using placed
        have hp : Ordinary p.expand.toList :=
          expand_ordinary fun q hm => (hc q (mem_nodesAll.mpr ⟨p, by simp, hm⟩)).1
        rw [transcript]
        refine ih placed' ?_ hqp hrest
        intro q hm
        rcases List.mem_append.mp hm with hm | hm
        · exact hg q hm
        · exact List.mem_singleton.mp hm ▸ hp
    | flush =>
      have placed' : Placed [] given.length steps := placed
      rw [transcript, String.toList_append, ordinary_append]
      exact ⟨drainPrints_ordinary hq, ih placed' hg (by simp [nodesAll]) hc⟩

/-- A marker that a producer prints is still there in the end. -/
theorem transcript_leaks (n : Nat) (queue given : List Plan)
    (hlen : coming.length = (producers steps).length) {p : Plan}
    (hp : p ∈ nodesAll (queue ++ coming)) (h : Piece.indices p.printed ≠ []) :
    ∃ k, (Marker.numbered nonce k).text.toList <:+:
      (transcript nonce n queue given coming steps).toList := by
  induction steps generalizing n queue given coming with
  | nil =>
    have hnil : coming = [] := by simpa [producers] using hlen
    rw [hnil, List.append_nil] at hp
    exact drainPrints_leaks nonce n hp h
  | cons step steps ih =>
    cases step with
    | print ps =>
      obtain ⟨k, hk⟩ := ih n queue given hlen hp
      refine ⟨k, ?_⟩
      rw [transcript, String.toList_append]
      exact hk.trans (List.suffix_append _ _).isInfix
    | defer c =>
      cases coming with
      | nil => simp [producers] at hlen
      | cons q coming =>
        rw [transcript]
        exact ih (n + 1) (queue ++ [q]) (given ++ [q]) (by simpa [producers] using hlen)
          (by simpa using hp)
    | flush =>
      rw [transcript, String.toList_append]
      rw [nodesAll_append, List.mem_append] at hp
      rcases hp with hp | hp
      · obtain ⟨k, hk⟩ := drainPrints_leaks nonce n hp h
        exact ⟨k, hk.trans (List.prefix_append _ _).isInfix⟩
      · obtain ⟨k, hk⟩ := ih (n + growth queue) [] given hlen hp
        exact ⟨k, hk.trans (List.suffix_append _ _).isInfix⟩

end Step

variable {w : Setting} {plans : List Plan} {steps : List Step}

/-- A session on a fresh request ends with its transcript. -/
theorem session_finish (hn : Ordinary w.nonce.toList)
    (real : List.Forall₂ w.Realizes plans (Step.producers steps))
    (linear : ∀ p ∈ nodesAll plans, p.Linear) (placed : Step.Placed [] 0 steps)
    (few : (nodesAll plans).length ≤ MarkerSource.lastNumber) :
    ∃ least, ∀ fuel, least ≤ fuel → ∃ s,
      (Step.program [] steps).run fuel (.fresh w.filters w.cache w.nonce) =
        some (.ok (Step.transcript w.nonce 0 [] [] plans steps), s) := by
  refine ⟨w.fuel + (nodesAll plans).length + 4, ?_⟩
  intro fuel hf
  obtain ⟨fuel, rfl⟩ : ∃ f, fuel = f + 1 := ⟨fuel - 1, by omega⟩
  have hgrow : growth (Backlog.plans []) = 0 := rfl
  have hnodes : (nodesAll (Backlog.plans [])).length = 0 := rfl
  have hand : Handed 0 [] [] [] [] [] := ⟨rfl, by simp, by simp, by simp⟩
  have hfuel : w.fuel + (nodesAll (Backlog.plans [])).length + (nodesAll plans).length + 2 <
      fuel := by
    omega
  obtain ⟨s, hrun⟩ := w.scene_fresh.program hn hand placed real linear (by omega) hfuel
  have htext : (State.fresh w.filters w.cache w.nonce).request.output ++
      Piece.join (Backlog.reading w.nonce []) [] = "" := rfl
  rw [htext, String.empty_append] at hrun
  exact ⟨s, hrun⟩

/-- If producers print nothing, the text printed comes out with every marker replaced by what its
producer returned, expanded in turn. -/
theorem session_finish_expands (hn : Ordinary w.nonce.toList)
    (real : List.Forall₂ w.Realizes plans (Step.producers steps))
    (linear : ∀ p ∈ nodesAll plans, p.Linear) (silent : ∀ p ∈ nodesAll plans, p.printed = [])
    (placed : Step.Placed [] 0 steps) (few : (nodesAll plans).length ≤ MarkerSource.lastNumber) :
    ∃ least, ∀ fuel, least ≤ fuel → ∃ s,
      (Step.program [] steps).run fuel (.fresh w.filters w.cache w.nonce) =
        some (.ok (Piece.join (fun i => (plans.map expand).getD i "") (Step.parts steps)), s) := by
  have h := session_finish hn real linear placed few
  have placed' : Step.Placed [] ([] : List Plan).length steps := placed
  rwa [Step.transcript_silent placed' (by simp) real.length_eq (by simp [nodesAll]) silent,
    List.nil_append] at h

/-- A nested producer, markers out of order and a flush in between. -/
theorem session_finish_expands_nested :
    ∃ least, ∀ fuel, least ≤ fuel → ∃ s,
      (Step.program [] [.defer (content (.node [.node [] [] [.text "in"]] []
            [.text "<", .marker 0, .text ">"])),
          .defer (content (.node [] [] [.text "two"])),
          .print [.marker 1, .text "-", .marker 0], .flush, .print [.text "!"]]).run fuel
        (.fresh {} .null "n") = some (.ok "two-<in>!", s) := by
  have hin : ∀ q ∈
      (Plan.node [.node [] [] [.text "in"]] [] [.text "<", .marker 0, .text ">"]).nodes,
      q.Linear := by decide
  have htwo : ∀ q ∈ (Plan.node [] [] [.text "two"]).nodes, q.Linear := by decide
  have h := @session_finish_expands ⟨"n", {}, .null, 0⟩ _ [.defer _, .defer _,
      .print [.marker 1, .text "-", .marker 0], .flush, .print [.text "!"]] (by decide)
    (.cons (Setting.realizes_content hin) (.cons (Setting.realizes_content htwo) .nil))
    (by decide) (by decide) (by decide) (by decide)
  exact h

/-- The text returned holds no marker just if no producer prints one while it runs. -/
theorem session_finish_marker_free_iff (hn : Ordinary w.nonce.toList)
    (real : List.Forall₂ w.Realizes plans (Step.producers steps))
    (linear : ∀ p ∈ nodesAll plans, p.Linear) (placed : Step.Placed [] 0 steps)
    (few : (nodesAll plans).length ≤ MarkerSource.lastNumber) :
    ∃ least text, (∀ fuel, least ≤ fuel → ∃ s,
        (Step.program [] steps).run fuel (.fresh w.filters w.cache w.nonce) = some (.ok text, s)) ∧
      text = Step.transcript w.nonce 0 [] [] plans steps ∧
      ((∀ k, ¬ (Marker.numbered w.nonce k).text.toList <:+: text.toList) ↔
        ∀ p ∈ nodesAll plans, Piece.indices p.printed = []) := by
  obtain ⟨least, h⟩ := session_finish hn real linear placed few
  refine ⟨least, _, h, rfl, ?_⟩
  constructor
  · intro free p hp
    by_contra hne
    obtain ⟨k, hk⟩ := Step.transcript_leaks 0 [] [] real.length_eq hp hne
    exact free k hk
  · intro unmarked
    have placed' : Step.Placed [] ([] : List Plan).length steps := placed
    exact Marker.not_infix_of_ordinary (Step.transcript_ordinary placed' (by simp)
      (by simp [nodesAll]) fun p hp => ⟨linear p hp, unmarked p hp⟩)

/-- A producer that prints words only, which leaves the text free of markers. -/
theorem session_finish_marker_free_iff_words :
    ∃ least text, (∀ fuel, least ≤ fuel → ∃ s,
        (Step.program [] [.defer (content (.node [] [.text "late"] [.text "early"])),
          .print [.marker 0]]).run fuel (.fresh {} .null "n") = some (.ok text, s)) ∧
      text = Step.transcript "n" 0 [] [] [.node [] [.text "late"] [.text "early"]]
        [.defer (content (.node [] [.text "late"] [.text "early"])), .print [.marker 0]] ∧
      ((∀ k, ¬ (Marker.numbered "n" k).text.toList <:+: text.toList) ↔
        ∀ p ∈ nodesAll [.node [] [.text "late"] [.text "early"]],
          Piece.indices p.printed = []) := by
  have hp : ∀ q ∈ (Plan.node [] [.text "late"] [.text "early"]).nodes, q.Linear := by decide
  exact @session_finish_marker_free_iff ⟨"n", {}, .null, 0⟩ _ _ (by decide)
    (.cons (Setting.realizes_content hp) .nil) (by decide) (by decide) (by decide)

/-- A producer that prints the marker of another and returns a text: the text returned by `finish`
holds that marker, and never the words of the producer behind it. -/
theorem session_finish_keeps_printed_marker :
    ∃ least, ∀ fuel, least ≤ fuel → ∃ s,
      (Step.program [] [.defer (content (.node [.node [] [] [.text "late"]] [.marker 0]
          [.text "early"])), .print [.marker 0]]).run fuel (.fresh {} .null "n") =
        some (.ok ("early" ++ (Marker.numbered "n" 2).text), s) := by
  have hp : ∀ q ∈ (Plan.node [.node [] [] [.text "late"]] [.marker 0] [.text "early"]).nodes,
      q.Linear := by decide
  have h := @session_finish ⟨"n", {}, .null, 0⟩ _ [.defer _, .print [.marker 0]] (by decide)
    (.cons (Setting.realizes_content hp) .nil) (by decide) (by decide) (by decide)
  have htext : Step.transcript "n" 0 [] []
      [.node [.node [] [] [.text "late"]] [.marker 0] [.text "early"]]
      [.defer (content (.node [.node [] [] [.text "late"]] [.marker 0] [.text "early"])),
        .print [.marker 0]] = "early" ++ (Marker.numbered "n" 2).text := by
    simp [Step.transcript, expand, Piece.join, drainPrints, Plan.children, Plan.printed, Piece.raw,
      Piece.renumber]
  rw [htext] at h
  exact h

end PageFilters
