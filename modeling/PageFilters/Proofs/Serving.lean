import PageFilters.Proofs.Sealed
import PageFilters.Proofs.Session

namespace PageFilters

/-- Pages rendered in turn, each on a request of its own with markers of its own nonce, over one
cache. -/
def Cache.serve (cache : Cache) : List (String × Document) →
    Option (List (Except DocumentError String) × Cache)
  | [] => some ([], cache)
  | (nonce, d) :: pages => do
    let (result, s) ← d.render d.fuel (.fresh .standard cache nonce)
    let (results, cache) ← s.cache.serve pages
    return (result :: results, cache)

/-- No filters that the block resolves to let a marker out of the page. -/
def Block.Sound (nonce : String) (b : Block) : Prop :=
  ∀ is, b.items? = some is → Wrapped.Sound nonce ⟨is, b.text⟩

/-- A page under way of which only ordinary text was emitted. -/
structure Shown (nonce : String) (q : Line) (s : State) : Prop where
  underway : Underway (Ordinary ·.toList) nonce (Line.Covered nonce) q s
  output : Ordinary s.request.output.toList

theorem Block.resolve_error {b : Block} (h : b.items? = none) :
    ∃ e, b.resolve .standard = .error e := by
  have hr := b.resolve_standard
  rw [h] at hr
  cases hb : b.resolve .standard with
  | error e => exact ⟨e, rfl⟩
  | ok fs => simp [hb, Except.toOption] at hr

theorem Block.items_eq {b : Block} {is : List Item} (h : b.items? = some is) : b.items = is := by
  rw [items, h, Option.getD_some]

namespace Shown

variable {nonce : String} {q : Line} {s : State}

theorem fresh (nonce : String) {cache : Cache} (h : cache.Holds (Ordinary ·.toList)) :
    Shown nonce [] (.fresh .standard cache nonce) where
  underway :=
    { ready := ⟨rfl, ⟨0, rfl⟩, rfl, h⟩
      stands := .nil
      good := ⟨by simp [Line.Sound], [], rfl, trivial, by simp [Line.Covers, Piece.indices]⟩ }
  output := ordinary_nil

theorem print {s' : State} {q' : Line} {words : String} (h : Shown nonce q s)
    (hleaves : Leaves (Ordinary ·.toList) nonce s q' s') (hwords : q'.Covered nonce words) :
    Shown nonce (q ++ q') (s'.print words) where
  underway := h.underway.print hleaves (Line.covered_append h.underway.good hwords)
  output := by
    change Ordinary s'.request.output.toList
    rw [hleaves.output]
    exact h.output

theorem flush (hn : Ordinary nonce.toList) (h : Shown nonce q s) (fuel : Nat)
    (hf : q.weight < fuel) :
    ∃ s', (Engine.ofFuel fuel).flushBuffer s = some (.ok (), s') ∧ Shown nonce [] s' := by
  obtain ⟨text, s', hflush, htext, hs', hnil, hbuffer, houtput⟩ :=
    h.underway.flush (lasts_covered hn) fuel hf
  refine ⟨s', hflush, ⟨hs', List.forall₂_nil_left_iff.mpr hnil, ?_⟩, ?_⟩
  · rw [hbuffer]
    exact ⟨by simp [Line.Sound], [], rfl, trivial, by simp [Line.Covers, Piece.indices]⟩
  · rw [houtput, String.toList_append, ordinary_append]
    exact ⟨h.output, Line.covered_nil htext⟩

/-- A block ends in any case, and the page goes on from it where it does not fail. -/
theorem block (hn : Ordinary nonce.toList) (h : Shown nonce q s) {b : Block}
    (hb : b.Sound nonce) (fuel : Nat) (hf : q.weight + Call.countDefers 1 b.calls < fuel)
    (index : Nat) :
    ∃ r s', b.render (.ofFuel fuel) index s = some (r, s') ∧
      s'.cache.Holds (Ordinary ·.toList) ∧
      (r = .ok () → ∃ q', Shown nonce q' s' ∧
        q'.weight ≤ q.weight + Call.countDefers 1 b.calls) := by
  have hready := h.underway.ready
  cases his : b.items? with
  | none =>
    obtain ⟨e, he⟩ := b.resolve_error his
    refine ⟨.error (.filter index e), s, ?_, hready.cache, by simp⟩
    rw [Block.render, hready.filters, he]
  | some is =>
    have hsound := hb is his
    have hcount : Call.countDefers 1 b.calls = Item.defers is := by
      rw [← b.items_eq his]
      exact Block.countDefers_eq (by rw [his, b.items_eq his])
    rw [hcount] at hf ⊢
    obtain ⟨words, q', s₁, hrun, houtcome, hleaves⟩ :=
      run_outcome (Engine.ofFuel fuel)
        (storable_of_sealed hsound.plain hsound.sealed hsound.untorn) hready
    obtain ⟨sound, ps, hps, plain, covers, _⟩ :=
      houtcome.covered hsound.plain hsound.sealed hsound.untorn
    have hprint := h.print hleaves ⟨sound, ps, hps, plain, covers⟩
    have hweight : Line.weight (q ++ q') ≤ q.weight + Item.defers is := by
      rw [Line.weight_append]
      exact Nat.add_le_add_left houtcome.weight_le _
    have hresolve : b.resolve s.request.filters = .ok (is.map Item.filter) := by
      rw [hready.filters]
      exact Block.resolve_of_items his
    by_cases hflush : b.flush = true
    · obtain ⟨s₂, hfl, h₂⟩ := hprint.flush hn fuel (by omega)
      exact ⟨.ok (), s₂, Block.render_flush hresolve hrun hflush hfl, h₂.underway.ready.cache,
        fun _ => ⟨[], h₂, by simp [Line.weight]⟩⟩
    · exact ⟨.ok (), s₁.print words,
        Block.render_print hresolve hrun (Bool.not_eq_true _ ▸ hflush),
        hprint.underway.ready.cache, fun _ => ⟨_, hprint, hweight⟩⟩

theorem blocks (hn : Ordinary nonce.toList) (h : Shown nonce q s) {bs : List Block}
    (hbs : ∀ b ∈ bs, b.Sound nonce) (fuel : Nat)
    (hf : q.weight + Block.totalDefers bs < fuel) (index : Nat) :
    ∃ r s', Block.renderAll (.ofFuel fuel) index bs s = some (r, s') ∧
      s'.cache.Holds (Ordinary ·.toList) ∧
      (r = .ok () → ∃ q', Shown nonce q' s' ∧
        q'.weight ≤ q.weight + Block.totalDefers bs) := by
  induction bs generalizing q s index with
  | nil => exact ⟨.ok (), s, rfl, h.underway.ready.cache, fun _ => ⟨q, h, by simp⟩⟩
  | cons b bs ih =>
    rw [Block.totalDefers] at hf ⊢
    have hrest := fun b' hb' => hbs b' (List.mem_cons_of_mem b hb')
    obtain ⟨r, s₁, hrun, hcache, hnext⟩ :=
      h.block hn (hbs b List.mem_cons_self) fuel (by omega) index
    cases r with
    | error e =>
      refine ⟨.error e, s₁, ?_, hcache, by simp⟩
      simp only [Block.renderAll, hrun, Option.bind_eq_bind, Option.bind_some]
      rfl
    | ok _ =>
      obtain ⟨q₁, h₁, hweight⟩ := hnext rfl
      obtain ⟨r, s₂, hrun₂, hcache₂, hnext₂⟩ := ih h₁ hrest (by omega) (index + 1)
      refine ⟨r, s₂, (Block.renderAll_cons bs hrun).trans hrun₂, hcache₂, ?_⟩
      intro hr
      obtain ⟨q₂, h₂, hweight₂⟩ := hnext₂ hr
      exact ⟨q₂, h₂, by omega⟩

end Shown

/-- A page of sound blocks ends, and if it does not fail its text is ordinary. -/
theorem Document.render_ordinary {d : Document} {nonce : String} (hn : Ordinary nonce.toList)
    (hd : ∀ b ∈ d.blocks, b.Sound nonce) {cache : Cache} (hc : cache.Holds (Ordinary ·.toList)) :
    ∃ r s, d.render d.fuel (.fresh .standard cache nonce) = some (r, s) ∧
      s.cache.Holds (Ordinary ·.toList) ∧ ∀ text, r = .ok text → Ordinary text.toList := by
  have hzero : Line.weight [] = 0 := rfl
  obtain ⟨r, s, hrun, hcache, hnext⟩ :=
    (Shown.fresh nonce hc).blocks hn hd d.fuel (by rw [hzero, Document.fuel]; omega) 0
  cases r with
  | error e =>
    refine ⟨.error e, s, ?_, hcache, by simp⟩
    simp only [Document.render, hrun, Option.bind_eq_bind, Option.bind_some]
    rfl
  | ok _ =>
    obtain ⟨q, h, hweight⟩ := hnext rfl
    rw [hzero] at hweight
    obtain ⟨text, s', hfinish, htext, hcache'⟩ :=
      h.underway.finish (lasts_covered hn) d.fuel (by rw [Document.fuel]; omega)
    refine ⟨.ok (s.request.output ++ text), s', Document.render_finish hrun hfinish, hcache', ?_⟩
    intro text' htext'
    rw [← Except.ok.inj htext', String.toList_append, ordinary_append]
    exact ⟨h.output, Line.covered_nil htext⟩

/-- No page of sound blocks shows a marker, whatever was rendered before it. -/
theorem Cache.serve_ordinary {pages : List (String × Document)}
    (hpages : ∀ p ∈ pages, Ordinary p.1.toList ∧ ∀ b ∈ p.2.blocks, b.Sound p.1) {cache : Cache}
    (hc : cache.Holds (Ordinary ·.toList)) :
    ∃ results cache', cache.serve pages = some (results, cache') ∧
      ∀ text, .ok text ∈ results → Ordinary text.toList := by
  induction pages generalizing cache with
  | nil => exact ⟨[], cache, rfl, by simp⟩
  | cons p pages ih =>
    obtain ⟨nonce, d⟩ := p
    obtain ⟨hn, hd⟩ := hpages (nonce, d) List.mem_cons_self
    obtain ⟨r, s, hrun, hcache, hr⟩ := d.render_ordinary hn hd hc
    obtain ⟨results, cache', hserve, hresults⟩ :=
      ih (fun p hp => hpages p (List.mem_cons_of_mem _ hp)) hcache
    refine ⟨r :: results, cache', ?_, ?_⟩
    · simp only [serve, hrun, Option.bind_eq_bind, Option.bind_some, hserve]
      rfl
    · intro text htext
      rcases List.mem_cons.mp htext with h | h
      · exact hr text h.symm
      · exact hresults text h

end PageFilters
