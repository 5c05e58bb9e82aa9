import PageFilters.Proofs.Rewriting
import PageFilters.Proofs.Settling

namespace PageFilters

/-- A filter of the standard registry less its arguments. -/
inductive Kind where
  | rewrite (r : Rewrite)
  | repeated
  | cached
  | deferred
deriving DecidableEq, Repr

def Item.kind : Item → Kind
  | rewrite r => .rewrite r
  | repeated _ => .repeated
  | cached _ _ => .cached
  | deferred => .deferred

namespace Kind

/-- A marker may come out of the filters. -/
def Emits : List Kind → Prop
  | [] => False
  | rewrite r :: ks => r ≠ .uriEscape ∧ Emits ks
  | repeated :: ks => Emits ks
  | cached :: ks => Emits ks
  | deferred :: _ => True

instance decidableEmits : (ks : List Kind) → Decidable (Emits ks)
  | [] => inferInstanceAs (Decidable False)
  | rewrite _ :: ks =>
    have := decidableEmits ks
    inferInstanceAs (Decidable (_ ∧ _))
  | repeated :: ks => decidableEmits ks
  | cached :: ks => decidableEmits ks
  | deferred :: _ => inferInstanceAs (Decidable True)

/-- No marker comes into a cache. -/
def Sealed : List Kind → Prop
  | [] => True
  | rewrite _ :: ks => Sealed ks
  | repeated :: ks => Sealed ks
  | cached :: ks => ¬ Emits ks ∧ Sealed ks
  | deferred :: ks => Sealed ks

instance decidableSealed : (ks : List Kind) → Decidable (Sealed ks)
  | [] => inferInstanceAs (Decidable True)
  | rewrite _ :: ks => decidableSealed ks
  | repeated :: ks => decidableSealed ks
  | cached :: ks =>
    have := decidableSealed ks
    inferInstanceAs (Decidable (_ ∧ _))
  | deferred :: ks => decidableSealed ks

/-- No marker of the nonce comes into a rewriting that tears it. -/
def Untorn (nonce : String) : List Kind → Prop
  | [] => True
  | rewrite r :: ks => (r ≠ .uriEscape → Emits ks → r.Spares nonce) ∧ Untorn nonce ks
  | repeated :: ks => Untorn nonce ks
  | cached :: ks => Untorn nonce ks
  | deferred :: ks => Untorn nonce ks

theorem sealed_tail {k : Kind} {ks : List Kind} (h : Sealed (k :: ks)) : Sealed ks := by
  cases k with
  | rewrite r => exact h
  | repeated => exact h
  | cached => exact h.2
  | deferred => exact h

theorem untorn_tail {nonce : String} {k : Kind} {ks : List Kind} (h : Untorn nonce (k :: ks)) :
    Untorn nonce ks := by
  cases k with
  | rewrite r => exact h.2
  | repeated => exact h
  | cached => exact h
  | deferred => exact h

theorem sealed_append {ks js : List Kind} (h : Sealed (ks ++ js)) : Sealed js := by
  induction ks with
  | nil => exact h
  | cons k ks ih => exact ih (sealed_tail h)

theorem untorn_append {nonce : String} {ks js : List Kind} (h : Untorn nonce (ks ++ js)) :
    Untorn nonce js := by
  induction ks with
  | nil => exact h
  | cons k ks ih => exact ih (untorn_tail h)

theorem untorn_of_solid {nonce : String} (h : ∀ c ∈ nonce.toList, Text.Solid c) (ks : List Kind) :
    Untorn nonce ks := by
  induction ks with
  | nil => trivial
  | cons k ks ih =>
    cases k with
    | rewrite r => exact ⟨fun hr _ => Rewrite.spares_solid hr h, ih⟩
    | repeated => exact ih
    | cached => exact ih
    | deferred => exact ih

end Kind

/-- Neither the text nor the filters let a marker out of the page. -/
structure Wrapped.Sound (nonce : String) (c : Wrapped) : Prop where
  plain : Ordinary c.text.toList
  sealed : Kind.Sealed (c.items.map Item.kind)
  untorn : Kind.Untorn nonce (c.items.map Item.kind)

namespace Line

def Sound (nonce : String) (q : Line) : Prop := ∀ c ∈ q, c.2.Sound nonce

/-- No marker stands more often among the parts than contents wait for it. -/
def Covers (q : Line) (ps : List Piece) : Prop :=
  ∀ k, (Piece.indices ps).count k ≤ (q.map Prod.fst).count k

/-- All markers in the buffer are waited for. -/
def Covered (nonce : String) (q : Line) (buffer : String) : Prop :=
  q.Sound nonce ∧ ∃ ps, buffer = Piece.raw nonce ps ∧ Piece.Plain ps ∧ q.Covers ps

theorem sound_append {nonce : String} {q q' : Line} (h : q.Sound nonce) (h' : q'.Sound nonce) :
    Sound nonce (q ++ q') := by
  intro c hc
  rcases List.mem_append.mp hc with hc | hc
  · exact h c hc
  · exact h' c hc

theorem covers_append {q q' : Line} {ps ps' : List Piece} (h : q.Covers ps) (h' : q'.Covers ps') :
    Covers (q ++ q') (ps ++ ps') := by
  intro k
  have hk := h k
  have hk' := h' k
  rw [List.map_append, Piece.indices_append, List.count_append, List.count_append]
  omega

theorem covered_append {nonce : String} {q q' : Line} {buffer words : String}
    (h : q.Covered nonce buffer) (h' : q'.Covered nonce words) :
    Covered nonce (q ++ q') (buffer ++ words) := by
  obtain ⟨sound, ps, rfl, plain, covers⟩ := h
  obtain ⟨sound', ps', rfl, plain', covers'⟩ := h'
  exact ⟨sound_append sound sound', ps ++ ps', (Piece.raw_append nonce ps ps').symm,
    Piece.plain_append.mpr ⟨plain, plain'⟩, covers_append covers covers'⟩

theorem covered_nil {nonce text : String} (h : Covered nonce [] text) : Ordinary text.toList := by
  obtain ⟨_, ps, rfl, plain, covers⟩ := h
  refine Piece.join_ordinary plain ?_
  intro k hk
  have hpos := List.count_pos_iff.mpr hk
  have hzero := covers k
  simp at hzero
  omega

/-- A content that has run takes one marker of its number away and brings those of its own text. -/
theorem covered_fill {nonce : String} (hn : Ordinary nonce.toList) {k : Nat} {c : Wrapped}
    {q q' : Line} {buffer words : String} (h : Covered nonce ((k, c) :: q) buffer)
    (h' : q'.Covered nonce words) : Covered nonce (q ++ q') (fill nonce k words buffer) := by
  -- Numbers may repeat in a line, so markers are counted: a bound for each number is kept.
  obtain ⟨sound, ps, rfl, plain, covers⟩ := h
  obtain ⟨sound', rs, rfl, plain', covers'⟩ := h'
  have hsound : Sound nonce (q ++ q') :=
    sound_append (fun c hc => sound c (List.mem_cons_of_mem _ hc)) sound'
  by_cases hk : k ∈ Piece.indices ps
  · obtain ⟨before, after, rfl, hfirst⟩ := Piece.exists_first_marker hk
    rw [Piece.plain_append] at plain
    refine ⟨hsound, before ++ rs ++ after, ?_, ?_, ?_⟩
    · rw [fill, Piece.substituteFirst_raw_present hn _ plain.1 hfirst, Option.getD_some,
        Piece.raw_append, Piece.raw_append]
    · rw [Piece.plain_append, Piece.plain_append]
      exact ⟨⟨plain.1, plain'⟩, plain.2⟩
    · intro j
      have hj := covers j
      have hj' := covers' j
      simp only [Piece.indices_append, Piece.indices, List.map_cons, List.count_append,
        List.count_cons] at hj
      simp only [Piece.indices_append, List.count_append, List.map_append]
      omega
  · refine ⟨hsound, ps, ?_, plain, ?_⟩
    · rw [fill, Piece.substituteFirst_raw_absent hn _ plain hk, Option.getD_none]
    · intro j
      have hj := covers j
      rw [List.map_cons, List.count_cons] at hj
      rw [List.map_append, List.count_append]
      by_cases hkj : k = j
      · rw [List.count_eq_zero.mpr (hkj ▸ hk)]
        omega
      · simp only [beq_iff_eq, hkj, if_false] at hj
        omega

end Line

section Outcomes

variable {nonce text : String} {is : List Item} {words : String} {q : Line}

/-- Text in sound filters comes to words and markers that are waited for, and to words alone where
no marker comes out of the filters. -/
theorem Outcome.covered (ht : Ordinary text.toList) (hs : Kind.Sealed (is.map Item.kind))
    (hu : Kind.Untorn nonce (is.map Item.kind))
    (h : Outcome (Ordinary ·.toList) nonce text is words q) :
    q.Sound nonce ∧ ∃ ps, words = Piece.raw nonce ps ∧ Piece.Plain ps ∧ q.Covers ps ∧
      (¬ Kind.Emits (is.map Item.kind) → Piece.indices ps = []) := by
  have hwords : ∀ s : String, s = Piece.raw nonce [.text s] := by simp [Piece.raw, Piece.join]
  have hcovers : ∀ q : Line, ∀ s, q.Covers [.text s] := by simp [Line.Covers, Piece.indices]
  induction h with
  | plain =>
    exact ⟨by simp [Line.Sound], [.text text], hwords _, ⟨ht, trivial⟩, hcovers _ _, fun _ => rfl⟩
  | @rewrite r is words q h ih =>
    obtain ⟨sound, ps, rfl, plain, covers, hnone⟩ := ih hs hu.2
    by_cases hr : r = .uriEscape
    · subst hr
      exact ⟨sound, [.text _], hwords _, ⟨Text.uriEscape_ordinary _, trivial⟩, hcovers _ _,
        fun _ => rfl⟩
    · have spares : Piece.indices ps = [] ∨ r.Spares nonce := by
        by_cases he : Kind.Emits (is.map Item.kind)
        · exact Or.inr (hu.1 hr he)
        · exact Or.inl (hnone he)
      obtain ⟨qs, happly, hqs, hindices⟩ := Rewrite.apply_raw hr plain spares
      refine ⟨sound, qs, happly, hqs, fun k => hindices ▸ covers k, ?_⟩
      intro he
      rw [hindices]
      exact hnone fun hm => he ⟨hr, hm⟩
  | never =>
    exact ⟨by simp [Line.Sound], [], rfl, trivial, by simp [Line.Covers, Piece.indices],
      fun _ => rfl⟩
  | again h h' ih ih' =>
    obtain ⟨sound, ps, rfl, plain, covers, hnone⟩ := ih hs hu
    obtain ⟨sound', ps', rfl, plain', covers', hnone'⟩ := ih' hs hu
    refine ⟨Line.sound_append sound sound', ps ++ ps', (Piece.raw_append nonce ps ps').symm,
      Piece.plain_append.mpr ⟨plain, plain'⟩, Line.covers_append covers covers', ?_⟩
    intro he
    rw [Piece.indices_append, hnone he, hnone' he]
    rfl
  | hit h =>
    exact ⟨by simp [Line.Sound], [.text _], hwords _, ⟨h, trivial⟩, hcovers _ _, fun _ => rfl⟩
  | miss h ih =>
    obtain ⟨sound, ps, hps, plain, covers, hnone⟩ := ih hs.2 hu
    exact ⟨sound, ps, hps, plain, covers, fun _ => hnone hs.1⟩
  | @later is k =>
    refine ⟨?_, [.marker k], by simp [Piece.raw, Piece.join], trivial,
      by simp [Line.Covers, Piece.indices], fun he => absurd trivial he⟩
    simpa [Line.Sound] using Wrapped.Sound.mk (c := ⟨is, text⟩) ht hs hu

theorem storable_of_sealed (ht : Ordinary text.toList) (hs : Kind.Sealed (is.map Item.kind))
    (hu : Kind.Untorn nonce (is.map Item.kind)) :
    Storable (Ordinary ·.toList) nonce text is := by
  rintro key ttl js ⟨front, rfl⟩ words q h
  rw [List.map_append] at hs hu
  obtain ⟨hnot, hs⟩ := Kind.sealed_append hs
  have hu := Kind.untorn_tail (Kind.untorn_append hu)
  obtain ⟨_, ps, rfl, plain, _, hnone⟩ := h.covered ht hs hu
  exact Piece.join_ordinary plain (by simp [hnone hnot])

end Outcomes

theorem lasts_covered {nonce : String} (hn : Ordinary nonce.toList) :
    Lasts (Ordinary ·.toList) nonce (Line.Covered nonce) where
  storable := by
    intro k c q buffer h
    have hc : c.Sound nonce := h.1 (k, c) List.mem_cons_self
    exact storable_of_sealed hc.plain hc.sealed hc.untorn
  step := by
    intro k c q buffer words q' h houtcome
    have hc : c.Sound nonce := h.1 (k, c) List.mem_cons_self
    obtain ⟨sound, ps, hps, plain, covers, _⟩ := houtcome.covered hc.plain hc.sealed hc.untorn
    exact Line.covered_fill hn h ⟨sound, ps, hps, plain, covers⟩

end PageFilters
