import PageFilters.Proofs.Direct
import PageFilters.Proofs.Expansion

namespace PageFilters

open Plan

namespace Setting

variable {w : Setting} {n : Nat} {b : Backlog} {ps : List Piece} {s : State}

/-- Content runs and its text is printed: the buffer grows by what the content stands for. -/
theorem Scene.show (fuel : Nat) {p : Plan} {c : Content} (h : w.Scene n b ps s)
    (hc : w.Realizes p c) (hf : w.fuel ≤ fuel)
    (hn : n + p.children.length ≤ MarkerSource.lastNumber)
    (hp : ∀ q ∈ p.nodes, q.Linear ∧ q.printed = []) :
    ∃ text s', (Engine.ofFuel fuel).runContent c s = some (.ok text, s') ∧
      w.Scene (n + p.children.length) (b ++ Backlog.enter n p.children)
        (ps ++ p.returned.map (Piece.renumber (n + 1 + ·))) (s'.print text) ∧
      s'.request.output = s.request.output := by
  obtain ⟨entries, s', hrun, hext, hkids⟩ := realizes_iff.mp hc fuel n s hf h.holds hn
  have hlen : entries.length = p.children.length := by simpa using hkids.length_eq.symm
  have hprint : w.text n p.printed = "" := by
    rw [(hp p (by simp [nodes_eq])).2]
    rfl
  rw [hprint] at hext
  have hholds := hext.holds
  rw [hlen] at hholds
  have hwait : w.Waiting (b ++ Backlog.enter n p.children) s' := h.waiting.extend hext hkids
  refine ⟨_, s', hrun, ⟨⟨hholds.filters, hholds.markers, hholds.unfinished, hholds.cache⟩,
    hwait, Backlog.sound_append h.sound fun q hq => (hp q hq).1, ?_⟩, hext.output⟩
  rw [Piece.raw_append, ← h.buffer]
  change s'.request.buffer ++ _ = _
  rw [hext.buffer, String.append_empty]
  rfl

/-- A block is shown: output and buffer together are bound to grow by its value. -/
theorem Scene.block (fuel : Nat) (hn : Ordinary w.nonce.toList) (hw : w.cache = .null)
    (hr : w.filters = .standard) (h : w.Scene n b ps s)
    (silent : ∀ q ∈ nodesAll b.plans, q.printed = []) {block : Block}
    (his : block.items? = some block.items) (ht : Ordinary block.text.toList)
    (lead : Item.DefersLead block.items)
    (hb : n + growth b.plans + Item.defers block.items ≤ MarkerSource.lastNumber)
    (hf : w.fuel + (nodesAll b.plans).length + Item.defers block.items < fuel) (index : Nat) :
    ∃ n' b' ps' s', block.render (.ofFuel fuel) index s = some (.ok (), s') ∧
      w.Scene n' b' ps' s' ∧ (∀ q ∈ nodesAll b'.plans, q.printed = []) ∧
      n' + growth b'.plans = n + growth b.plans + Item.defers block.items ∧
      (nodesAll b'.plans).length ≤ (nodesAll b.plans).length + Item.defers block.items ∧
      s'.request.output ++ Piece.join (b'.reading w.nonce) ps' =
        s.request.output ++ Piece.join (b.reading w.nonce) ps ++
          Item.value block.items block.text := by
  have hsize := Item.plan_size lead block.text
  have hplan := Item.plan_linear ht block.items
  have hexpand := Item.plan_expand ht block.items
  have hreal := realizes_compose hw ht lead
  generalize Item.plan block.items block.text = p at hsize hplan hexpand hreal
  have hlen := length_le_nodesAll p.children
  have hlenb := length_le_nodesAll b.plans
  obtain ⟨text, s₁, hrun, h₁, hout⟩ := h.show fuel hreal (by omega) (by omega) hplan
  have hself : p ∈ p.nodes := by simp [nodes_eq]
  have hjoin := Backlog.join_append_returned w.nonce h.sound (hplan p hself).1
  rw [hexpand] at hjoin
  have hplans : Backlog.plans (b ++ Backlog.enter n p.children) = b.plans ++ p.children := by
    rw [Backlog.plans_append, Backlog.enter_plans]
  have hnodes : (nodesAll (b.plans ++ p.children)).length =
      (nodesAll b.plans).length + Item.defers block.items := by
    rw [nodesAll_append, List.length_append, hsize]
  have hgrow : n + p.children.length + growth (b.plans ++ p.children) =
      n + growth b.plans + Item.defers block.items := by
    simp only [growth, hnodes, List.length_append]
    omega
  have hsilent : ∀ q ∈ nodesAll (b.plans ++ p.children), q.printed = [] := by
    intro q hq
    rw [nodesAll_append, List.mem_append] at hq
    rcases hq with hq | hq
    · exact silent q hq
    · exact (hplan q (by rw [nodes_eq]; exact List.mem_cons_of_mem _ hq)).2
  have hresolve : block.resolve s.request.filters = .ok (block.items.map Item.filter) := by
    rw [h.holds.filters, hr]
    exact Block.resolve_of_items his
  rw [← hplans] at hgrow hsilent hnodes
  -- A flush moves what the buffer was bound to read to the output and leaves no backlog.
  by_cases hflush : block.flush = true
  · obtain ⟨s₂, hfl, h₂, hout₂⟩ := h₁.flush hn fuel (by omega) (by omega)
    rw [drainPrints_silent hsilent] at h₂
    refine ⟨_, [], [], s₂, Block.render_flush hresolve hrun hflush hfl, h₂,
      by simp [Backlog.plans, nodesAll], ?_, ?_, ?_⟩
    · have hnil : growth (Backlog.plans []) = 0 := rfl
      rw [hnil, ← hgrow, Nat.add_zero]
    · simp [Backlog.plans, nodesAll]
    · have hread : Piece.join (Backlog.reading w.nonce []) [] = "" := rfl
      rw [hread, String.append_empty, hout₂, hjoin, String.append_assoc, ← hout]
      rfl
  · refine ⟨_, _, _, s₁.print text,
      Block.render_print hresolve hrun (Bool.not_eq_true _ ▸ hflush), h₁, hsilent, hgrow,
      hnodes.le, ?_⟩
    rw [hjoin, String.append_assoc, ← hout]
    rfl

theorem Scene.blocks (fuel : Nat) (hn : Ordinary w.nonce.toList) (hw : w.cache = .null)
    (hr : w.filters = .standard) (h : w.Scene n b ps s)
    (silent : ∀ q ∈ nodesAll b.plans, q.printed = []) (blocks : List Block)
    (hblocks : ∀ b ∈ blocks, b.items? = some b.items ∧ Ordinary b.text.toList ∧
      Item.DefersLead b.items)
    (hb : n + growth b.plans + Block.totalDefers blocks ≤ MarkerSource.lastNumber)
    (hf : w.fuel + (nodesAll b.plans).length + Block.totalDefers blocks < fuel) (index : Nat) :
    ∃ n' b' ps' s', Block.renderAll (.ofFuel fuel) index blocks s = some (.ok (), s') ∧
      w.Scene n' b' ps' s' ∧
      n' + growth b'.plans = n + growth b.plans + Block.totalDefers blocks ∧
      (nodesAll b'.plans).length ≤ (nodesAll b.plans).length + Block.totalDefers blocks ∧
      s'.request.output ++ Piece.join (b'.reading w.nonce) ps' ++
          Piece.raw w.nonce (drainPrints n' b'.plans) =
        s.request.output ++ Piece.join (b.reading w.nonce) ps ++
          String.join (blocks.map fun b => Item.value b.items b.text) := by
  induction blocks generalizing n b ps s index with
  | nil =>
    refine ⟨n, b, ps, s, rfl, h, rfl, Nat.le_refl _, ?_⟩
    rw [drainPrints_silent silent]
    simp [Piece.raw, Piece.join]
  | cons block blocks ih =>
    obtain ⟨his, ht, lead⟩ := hblocks block List.mem_cons_self
    have hrest := fun b hb => hblocks b (List.mem_cons_of_mem block hb)
    rw [Block.totalDefers, Block.countDefers_eq his] at hb hf ⊢
    obtain ⟨n₁, b₁, ps₁, s₁, hrun, h₁, silent₁, hgrow, hnodes, htext⟩ :=
      h.block fuel hn hw hr silent his ht lead (by omega) (by omega) index
    obtain ⟨n₂, b₂, ps₂, s₂, hrun₂, h₂, hgrow₂, hnodes₂, htext₂⟩ :=
      ih h₁ silent₁ hrest (by omega) (by omega) (index + 1)
    refine ⟨n₂, b₂, ps₂, s₂, (Block.renderAll_cons blocks hrun).trans hrun₂, h₂, by omega,
      by omega, ?_⟩
    rw [htext₂, htext, List.map_cons, String.join_cons, String.append_assoc]

end Setting

/-- Deferrals do not show: without a cache a page reads as its blocks do when each is rendered
through its filters less those that defer or cache. -/
theorem Document.render_deferred {d : Document} {nonce : String} (hn : Ordinary nonce.toList)
    (resolves : ∀ b ∈ d.blocks, ∃ fs, b.resolve .standard = .ok fs)
    (plain : ∀ b ∈ d.blocks, Ordinary b.text.toList)
    (lead : ∀ b ∈ d.blocks, Item.DefersLead b.items)
    (few : Block.totalDefers d.blocks ≤ MarkerSource.lastNumber) :
    ∃ texts, List.Forall₂ (fun b text => b.resolve .standard = .ok (b.items.map Item.filter) ∧
          ∀ fuel s, (Filter.compose ((Item.direct b.items).map Item.filter) (.literal b.text)).run
            (fuel + 1) s = some (.ok text, s)) d.blocks texts ∧
      ∀ fuel, d.fuel ≤ fuel → ∃ s,
        d.render fuel (.fresh .standard .null nonce) = some (.ok (String.join texts), s) := by
  have hitems : ∀ b ∈ d.blocks, b.items? = some b.items := by
    intro b hb
    obtain ⟨fs, hfs⟩ := resolves b hb
    exact Block.items?_of_resolve hfs
  refine ⟨d.blocks.map fun b => Item.value b.items b.text, ?_, ?_⟩
  · rw [List.forall₂_map_right_iff, List.forall₂_same]
    intro b hb
    exact ⟨Block.resolve_of_items (hitems b hb), fun fuel s =>
      Item.run_direct (.ofFuel fuel) b.items b.text s⟩
  · intro fuel hf
    rw [Document.fuel] at hf
    have hzero : growth (Backlog.plans []) = 0 := rfl
    have hnone : (nodesAll (Backlog.plans [])).length = 0 := rfl
    obtain ⟨n, b, ps, s, hrun, h, hgrow, hnodes, htext⟩ :=
      (Setting.scene_fresh ⟨nonce, .standard, .null, 0⟩).blocks fuel hn rfl rfl
        (by simp [Backlog.plans, nodesAll]) d.blocks
        (fun b hb => ⟨hitems b hb, plain b hb, lead b hb⟩) (by omega) (by dsimp only; omega) 0
    obtain ⟨s', hfinish⟩ := h.finish hn fuel (by dsimp only; omega) (by omega)
    have hstart : (State.fresh .standard .null nonce).request.output ++
        Piece.join (Backlog.reading nonce []) [] = "" := rfl
    rw [hstart, String.empty_append] at htext
    rw [htext] at hfinish
    exact ⟨s', Document.render_finish hrun hfinish⟩

/-- Deferrals around a cache, a repetition and rewriting, and a flush between two blocks. -/
theorem Document.render_deferred_nested :
    ∃ s, Document.render 7
      ⟨[⟨" x ", some "Defer", [⟨"Cache", [.text "k"]⟩, ⟨"Repeat", [.integer 2]⟩, ⟨"Defer", []⟩,
          ⟨"Trim", []⟩], true⟩,
        ⟨"<", none, [⟨"Defer", []⟩, ⟨"H", []⟩], false⟩]⟩ (.fresh .standard .null "n") =
      some (.ok "xx&lt;", s) := by
  have resolves : ∀ b ∈ [Block.mk " x " (some "Defer") [⟨"Cache", [.text "k"]⟩,
      ⟨"Repeat", [.integer 2]⟩, ⟨"Defer", []⟩, ⟨"Trim", []⟩] true,
      ⟨"<", none, [⟨"Defer", []⟩, ⟨"H", []⟩], false⟩], ∃ fs, b.resolve .standard = .ok fs := by
    intro b hb
    have hitems : b.items? = some b.items := by
      revert b
      decide
    exact ⟨_, Block.resolve_of_items hitems⟩
  obtain ⟨texts, hall, hrender⟩ :=
    @Document.render_deferred ⟨_⟩ "n" (by decide) resolves (by decide) (by decide) (by decide)
  obtain ⟨first, rest, ⟨_, hfirst⟩, hrest, rfl⟩ := List.forall₂_cons_left_iff.mp hall
  obtain ⟨second, none, ⟨_, hsecond⟩, hnone, rfl⟩ := List.forall₂_cons_left_iff.mp hrest
  rw [List.forall₂_nil_left_iff] at hnone
  subst hnone
  have hxx : first = "xx" := by
    have h :=
      (hfirst 0 (.fresh .standard .null "n")).symm.trans (Item.run_direct (.ofFuel 0) _ _ _)
    simp only [Option.some.injEq, Prod.mk.injEq, Except.ok.injEq, and_true] at h
    rw [h]
    decide
  have hlt : second = "&lt;" := by
    have h :=
      (hsecond 0 (.fresh .standard .null "n")).symm.trans (Item.run_direct (.ofFuel 0) _ _ _)
    simp only [Option.some.injEq, Prod.mk.injEq, Except.ok.injEq, and_true] at h
    rw [h]
    decide
  rw [hxx, hlt] at hrender
  exact hrender 7 (by decide)

end PageFilters
