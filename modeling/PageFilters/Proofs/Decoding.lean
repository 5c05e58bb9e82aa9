import PageFilters.Proofs.Piece
import Mathlib.Data.List.Nodup

namespace PageFilters

/-- The marker has a nonce in which no marker begins or ends. -/
def Marker.Fenced (m : Marker) : Prop :=
  ∃ nonce n, Ordinary nonce.toList ∧ m = numbered nonce n

/-- The next markers of a source, in the order in which it issues them. -/
def MarkerSource.issue (source : MarkerSource) : Nat → List Marker
  | 0 => []
  | count + 1 => source.next.1 :: source.next.2.issue count

theorem Text.of_append_eq {o : Char} {u v before after : List Char} (hu : o ∉ u)
    (h : u ++ v = before ++ o :: after) : ∃ rest, before = u ++ rest ∧ v = rest ++ o :: after := by
  rcases List.append_eq_append_iff.mp h with ⟨rest, hbefore, hv⟩ | ⟨rest, hsplit, hrest⟩
  · exact ⟨rest, hbefore, hv⟩
  · cases rest with
    | nil => exact ⟨[], by simpa using hsplit.symm, by simpa using hrest.symm⟩
    | cons c rest =>
      obtain ⟨rfl, _⟩ := List.cons.inj hrest
      exact absurd (hsplit ▸ List.mem_append_right before List.mem_cons_self) hu

namespace Marker

variable {nonce other : String} {m n count : Nat}

theorem numbered_injective (h : (numbered nonce m).text = (numbered other n).text) :
    nonce = other ∧ m = n := by
  have htext := congrArg String.toList h
  rw [numbered_toList, numbered_toList] at htext
  exact bodyChars_injective (List.append_cancel_right (List.cons.inj htext).2)

theorem of_mem_issue {k : Nat} {marker : Marker}
    (h : marker ∈ (MarkerSource.distinct nonce k).issue count) :
    ∃ n, marker = numbered nonce n := by
  induction count generalizing k with
  | zero => simp [MarkerSource.issue] at h
  | succ count ih =>
    rcases List.mem_cons.mp h with rfl | h
    · exact ⟨_, rfl⟩
    · exact ih h

/-- As long as the numbers do not stop growing, they are issued one after the other. -/
theorem issue_eq_range {k : Nat} (h : k + count ≤ MarkerSource.lastNumber) :
    (MarkerSource.distinct nonce k).issue count =
      (List.range' (k + 1) count).map (numbered nonce) := by
  induction count generalizing k with
  | zero => rfl
  | succ count ih =>
    have hnumber : min (k + 1) MarkerSource.lastNumber = k + 1 := by omega
    rw [MarkerSource.issue, MarkerSource.next, hnumber, ih (by omega), List.range'_succ,
      List.map_cons]

/-- Where one marker stands in front of a text and another one in the text, they are the same or
the other one comes later. -/
theorem fenced_append_eq {p q : Marker} (hp : p.Fenced) (hq : q.Fenced)
    {rest before after : List Char} (h : p.text.toList ++ rest = before ++ q.text.toList ++ after) :
    (p = q ∧ before = [] ∧ rest = after) ∨
      ∃ later, before = p.text.toList ++ later ∧ rest = later ++ q.text.toList ++ after := by
  obtain ⟨nonce, m, hnonce, rfl⟩ := hp
  obtain ⟨other, n, hother, rfl⟩ := hq
  have hm := bodyChars_ordinary hnonce m
  have hn := bodyChars_ordinary hother n
  rw [numbered_toList, numbered_toList] at h
  cases before with
  | nil =>
    left
    have htail := (List.cons.inj h).2
    have hbody : bodyChars nonce m = bodyChars other n :=
      (Text.fence_prefix_iff hm.2 hn.2).mp (List.isPrefixOf_iff_prefix.mpr ⟨rest, htail⟩)
    obtain ⟨rfl, rfl⟩ := bodyChars_injective hbody
    exact ⟨rfl, rfl, List.append_cancel_left htail⟩
  | cons c before =>
    right
    obtain ⟨rfl, htail⟩ : opening = c ∧ bodyChars nonce m ++ [closing] ++ rest =
        before ++ opening :: (bodyChars other n ++ [closing] ++ after) := by simpa using h
    have hinside : opening ∉ bodyChars nonce m ++ [closing] := by
      rw [List.mem_append]
      rintro (hc | hc)
      · exact hm.1 hc
      · exact absurd hc (by decide)
    obtain ⟨later, rfl, hrest⟩ := Text.of_append_eq hinside htail
    refine ⟨later, ?_, ?_⟩
    · rw [numbered_toList]
      rfl
    · rw [numbered_toList, hrest]
      simp

end Marker

namespace Piece

variable {handed : Nat → Marker} {m : Marker}

theorem toList_eq_append {ps : List Piece} (plain : Plain ps)
    (fenced : ∀ i ∈ indices ps, (handed i).Fenced) (hm : m.Fenced) {before after : List Char}
    (h : (join (fun i => (handed i).text) ps).toList = before ++ m.text.toList ++ after) :
    ∃ front i back, ps = front ++ marker i :: back ∧ handed i = m ∧
      before = (join (fun i => (handed i).text) front).toList ∧
      after = (join (fun i => (handed i).text) back).toList := by
  induction ps generalizing before with
  | nil =>
    obtain ⟨nonce, n, _, rfl⟩ := hm
    simp [join, Marker.numbered_toList] at h
  | cons p ps ih =>
    cases p with
    | text words =>
      rw [join, String.toList_append] at h
      obtain ⟨nonce, n, _, rfl⟩ := id hm
      have hnumbered := h
      rw [Marker.numbered_toList, List.append_assoc] at hnumbered
      obtain ⟨rest, rfl, _⟩ := Text.of_append_eq plain.1.1 hnumbered
      rw [List.append_assoc, List.append_assoc, List.append_cancel_left_eq,
        ← List.append_assoc] at h
      obtain ⟨front, i, back, rfl, hi, rfl, hback⟩ := ih plain.2 fenced h
      exact ⟨text words :: front, i, back, rfl, hi, by simp [join], hback⟩
    | marker i =>
      have hi : (handed i).Fenced := fenced i (by simp [indices])
      have hrest : ∀ j ∈ indices ps, (handed j).Fenced :=
        fun j hj => fenced j (by simp [indices, hj])
      rw [join, String.toList_append] at h
      rcases Marker.fenced_append_eq hi hm h with ⟨hself, rfl, rfl⟩ | ⟨later, rfl, hlater⟩
      · exact ⟨[], i, ps, rfl, hself, rfl, rfl⟩
      · obtain ⟨front, j, back, rfl, hj, rfl, hback⟩ := ih plain hrest hlater
        exact ⟨marker i :: front, j, back, rfl, hj, by simp [join], hback⟩

/-- Exactly the markers that a text was put together from stand in it. -/
theorem join_eq_append_iff {ps : List Piece} (plain : Plain ps)
    (fenced : ∀ i ∈ indices ps, (handed i).Fenced) (hm : m.Fenced) {before after : String} :
    join (fun i => (handed i).text) ps = before ++ m.text ++ after ↔
      ∃ front i back, ps = front ++ marker i :: back ∧ handed i = m ∧
        before = join (fun i => (handed i).text) front ∧
        after = join (fun i => (handed i).text) back := by
  constructor
  · intro h
    have hchars := congrArg String.toList h
    rw [String.toList_append, String.toList_append] at hchars
    obtain ⟨front, i, back, hps, hi, hbefore, hafter⟩ := toList_eq_append plain fenced hm hchars
    exact ⟨front, i, back, hps, hi, String.toList_inj.mp hbefore, String.toList_inj.mp hafter⟩
  · rintro ⟨front, i, back, rfl, rfl, rfl, rfl⟩
    rw [join_append, join, String.append_assoc]

end Piece

/-- A marker tells the nonce and the number from which it was made, so that no two markers of a
source or of two sources are the same. In a text put together from words and markers, a marker
stands where it was put and nowhere else. -/
theorem Marker.decodable :
    (∀ nonce other m n, (numbered nonce m).text = (numbered other n).text →
      nonce = other ∧ m = n) ∧
    (∀ nonce count, count ≤ MarkerSource.lastNumber →
      ((MarkerSource.distinct nonce 0).issue count).Nodup) ∧
    (∀ nonce other, nonce ≠ other → ∀ count count',
      ((MarkerSource.distinct nonce 0).issue count).Disjoint
        ((MarkerSource.distinct other 0).issue count')) ∧
    ∀ (m : Marker) (handed : Nat → Marker) (ps : List Piece), m.Fenced → Piece.Plain ps →
      (∀ i ∈ Piece.indices ps, (handed i).Fenced) → ∀ before after,
        Piece.join (fun i => (handed i).text) ps = before ++ m.text ++ after ↔
          ∃ front i back, ps = front ++ .marker i :: back ∧ handed i = m ∧
            before = Piece.join (fun i => (handed i).text) front ∧
            after = Piece.join (fun i => (handed i).text) back := by
  refine ⟨fun _ _ _ _ => numbered_injective, ?_, ?_, ?_⟩
  · intro nonce count hcount
    rw [issue_eq_range (by omega)]
    exact List.Nodup.map (fun m n h => (numbered_injective (congrArg text h)).2) List.nodup_range'
  · intro nonce other hne count count' marker hmarker hother
    obtain ⟨m, rfl⟩ := of_mem_issue hmarker
    obtain ⟨n, hn⟩ := of_mem_issue hother
    exact hne (numbered_injective (congrArg text hn)).1
  · intro m handed ps hm plain fenced before after
    exact Piece.join_eq_append_iff plain fenced hm

/-- The first marker of a source begins like its tenth, and its nonce may look like part of another
source's number. -/
theorem Marker.decodable_lookalikes :
    ((MarkerSource.distinct "n" 0).issue 11).Nodup ∧
    ((MarkerSource.distinct "n" 0).issue 11).Disjoint ((MarkerSource.distinct "n_1" 0).issue 11) ∧
    ∀ before after, (numbered "n_1" 1).text ++ "_1" ++ (numbered "n" 11).text ≠
      before ++ (numbered "n" 1).text ++ after := by
  obtain ⟨_, nodup, disjoint, occurrence⟩ := decodable
  refine ⟨nodup "n" 11 (by decide), disjoint "n" "n_1" (by decide) 11 11, ?_⟩
  intro before after h
  have fenced : ∀ nonce n, Ordinary nonce.toList → (numbered nonce n).Fenced :=
    fun nonce n hn => ⟨nonce, n, hn, rfl⟩
  obtain ⟨front, i, back, _, hi, _⟩ :=
    (occurrence (numbered "n" 1) (fun i => if i = 0 then numbered "n_1" 1 else numbered "n" 11)
      [.marker 0, .text "_1", .marker 1] (fenced "n" 1 (by decide)) (by decide) (fun i _ => by
        split
        next => exact fenced "n_1" 1 (by decide)
        next => exact fenced "n" 11 (by decide)) before after).mp
      (by simpa [Piece.join, String.append_assoc] using h)
  split at hi
  next => exact absurd (numbered_injective (congrArg text hi)).1 (by decide)
  next => exact absurd (numbered_injective (congrArg text hi)).2 (by decide)

end PageFilters
