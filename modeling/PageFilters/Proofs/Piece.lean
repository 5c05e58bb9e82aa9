import PageFilters.Proofs.Fence

namespace PageFilters

/-- A part of a text: words, or the marker that a number stands for. -/
inductive Piece where
  | text (words : String)
  | marker (index : Nat)
deriving DecidableEq, Repr

namespace Piece

/-- The text of the parts, given what to read in place of the markers. -/
def join (read : Nat → String) : List Piece → String
  | [] => ""
  | text words :: ps => words ++ join read ps
  | marker i :: ps => read i ++ join read ps

/-- The text of the parts as a buffer holds it. -/
def raw (nonce : String) (ps : List Piece) : String :=
  join (fun n => (Marker.numbered nonce n).text) ps

/-- The text of the parts with the given markers in place of their numbers. -/
def place (handed : List Marker) (ps : List Piece) : String :=
  join (fun i => (handed.map Marker.text).getD i "") ps

/-- The markers among the parts, in order. -/
def indices : List Piece → List Nat
  | [] => []
  | text _ :: ps => indices ps
  | marker i :: ps => i :: indices ps

def renumber (f : Nat → Nat) : Piece → Piece
  | text words => text words
  | marker i => marker (f i)

/-- The words hold no end of a marker. -/
def Plain : List Piece → Prop
  | [] => True
  | text words :: ps => Ordinary words.toList ∧ Plain ps
  | marker _ :: ps => Plain ps

instance decidablePlain : (ps : List Piece) → Decidable (Plain ps)
  | [] => inferInstanceAs (Decidable True)
  | text words :: ps =>
    have := decidablePlain ps
    inferInstanceAs (Decidable (Ordinary words.toList ∧ Plain ps))
  | marker _ :: ps => decidablePlain ps

theorem join_append (read : Nat → String) (ps qs : List Piece) :
    join read (ps ++ qs) = join read ps ++ join read qs := by
  induction ps with
  | nil => simp [join]
  | cons p ps ih => cases p <;> simp [join, ih, String.append_assoc]

theorem raw_append (nonce : String) (ps qs : List Piece) :
    raw nonce (ps ++ qs) = raw nonce ps ++ raw nonce qs := join_append _ ps qs

theorem indices_append (ps qs : List Piece) :
    indices (ps ++ qs) = indices ps ++ indices qs := by
  induction ps with
  | nil => rfl
  | cons p ps ih => cases p <;> simp [indices, ih]

theorem plain_append {ps qs : List Piece} : Plain (ps ++ qs) ↔ Plain ps ∧ Plain qs := by
  induction ps with
  | nil => simp [Plain]
  | cons p ps ih => cases p <;> simp [Plain, ih, and_assoc]

theorem join_congr {f g : Nat → String} {ps : List Piece}
    (h : ∀ i ∈ indices ps, f i = g i) : join f ps = join g ps := by
  induction ps with
  | nil => rfl
  | cons p ps ih =>
    cases p with
    | text words => simp only [join, ih h]
    | marker i =>
      have hi := h i (by simp [indices])
      have ht := ih fun j hj => h j (by simp [indices, hj])
      simp only [join, hi, ht]

theorem join_renumber (read : Nat → String) (f : Nat → Nat) (ps : List Piece) :
    join read (ps.map (renumber f)) = join (fun i => read (f i)) ps := by
  induction ps with
  | nil => rfl
  | cons p ps ih => cases p <;> simp [join, renumber, ih]

theorem indices_renumber (f : Nat → Nat) (ps : List Piece) :
    indices (ps.map (renumber f)) = (indices ps).map f := by
  induction ps with
  | nil => rfl
  | cons p ps ih => cases p <;> simp [indices, renumber, ih]

theorem plain_renumber {f : Nat → Nat} {ps : List Piece} :
    Plain (ps.map (renumber f)) ↔ Plain ps := by
  induction ps with
  | nil => simp [Plain]
  | cons p ps ih => cases p <;> simp [Plain, renumber, ih]

theorem exists_first_marker {k : Nat} {ps : List Piece} (h : k ∈ indices ps) :
    ∃ before after, ps = before ++ marker k :: after ∧ k ∉ indices before := by
  induction ps with
  | nil => simp [indices] at h
  | cons p ps ih =>
    cases p with
    | text words =>
      obtain ⟨before, after, he, hb⟩ := ih h
      exact ⟨text words :: before, after, by simp [he], hb⟩
    | marker i =>
      by_cases hi : k = i
      · subst hi
        exact ⟨[], ps, rfl, by simp [indices]⟩
      · obtain ⟨before, after, he, hb⟩ := ih (by simpa [indices, hi] using h)
        exact ⟨marker i :: before, after, by simp [he], by simp [indices, hi, hb]⟩

theorem join_ordinary {read : Nat → String} {ps : List Piece} (hp : Plain ps)
    (hr : ∀ i ∈ indices ps, Ordinary (read i).toList) : Ordinary (join read ps).toList := by
  induction ps with
  | nil => simpa [join] using ordinary_nil
  | cons p ps ih =>
    cases p with
    | text words =>
      rw [join, String.toList_append, ordinary_append]
      exact ⟨hp.1, ih hp.2 hr⟩
    | marker i =>
      rw [join, String.toList_append, ordinary_append]
      exact ⟨hr i (by simp [indices]), ih hp fun j hj => hr j (by simp [indices, hj])⟩

section Search

variable {nonce other : String} (hn : Ordinary nonce.toList)

include hn

theorem cutFirst_raw_skip (ho : Ordinary other.toList) {k : Nat} {ps : List Piece} (v : List Char)
    (hp : Plain ps) (hk : nonce = other → k ∉ indices ps) :
    Text.cutFirst (Marker.numberedChars nonce k) ((raw other ps).toList ++ v) =
      (Text.cutFirst (Marker.numberedChars nonce k) v).map fun (a, b) =>
        ((raw other ps).toList ++ a, b) := by
  induction ps with
  | nil => simp [raw, join]
  | cons p ps ih =>
    cases p with
    | text words =>
      have hh := ih hp.2 hk
      simp only [raw, join, String.toList_append, List.append_assoc] at hh ⊢
      rw [Marker.numberedChars_eq] at hh ⊢
      rw [Text.cutFirst_skip _ hp.1.1, hh, Option.map_map]
      rfl
    | marker i =>
      have hki : nonce = other → k ≠ i := fun h e => hk h (by simp [indices, e])
      have hh := ih hp fun h hc => hk h (by simp [indices, hc])
      simp only [raw, join, String.toList_append, List.append_assoc, Marker.numbered,
        String.toList_ofList] at hh ⊢
      rw [Text.cutFirst_marker_other hn ho hki, hh, Option.map_map]
      rfl

theorem substituteFirst_raw_other (ho : Ordinary other.toList) {k : Nat} {ps : List Piece}
    (text : String) (hp : Plain ps) (hk : nonce = other → k ∉ indices ps) :
    Text.substituteFirst (Marker.numbered nonce k).text text (raw other ps) = none := by
  have hs := cutFirst_raw_skip hn ho [] hp hk
  have hnil : Text.cutFirst (Marker.numberedChars nonce k) [] = none := by
    simp [Text.cutFirst, Marker.numberedChars_eq]
  rw [List.append_nil, hnil, Option.map_none] at hs
  simp [Text.substituteFirst, Text.replaceFirst, Marker.numbered, hs]

theorem substituteFirst_raw_absent {k : Nat} {ps : List Piece} (text : String)
    (hp : Plain ps) (hk : k ∉ indices ps) :
    Text.substituteFirst (Marker.numbered nonce k).text text (raw nonce ps) = none :=
  substituteFirst_raw_other hn hn text hp fun _ => hk

theorem substituteFirst_raw_present {k : Nat} {before after : List Piece} (text : String)
    (hp : Plain before) (hk : k ∉ indices before) :
    Text.substituteFirst (Marker.numbered nonce k).text text
        (raw nonce (before ++ marker k :: after)) =
      some (raw nonce before ++ text ++ raw nonce after) := by
  have hs := cutFirst_raw_skip hn hn (Marker.numberedChars nonce k ++ (raw nonce after).toList) hp
    fun _ => hk
  rw [Text.cutFirst_marker_self, Option.map_some] at hs
  have hraw : (raw nonce (before ++ marker k :: after)).toList =
      (raw nonce before).toList ++ (Marker.numberedChars nonce k ++ (raw nonce after).toList) := by
    simp [raw, join_append, join, Marker.numbered]
  have hcut : Text.cutFirst (Marker.numbered nonce k).text.toList
      (raw nonce (before ++ marker k :: after)).toList =
      some ((raw nonce before).toList, (raw nonce after).toList) := by
    rw [hraw, Marker.numbered, String.toList_ofList, hs]
    simp only [List.append_nil]
  rw [Text.substituteFirst, Text.replaceFirst, hcut]
  simp [← String.toList_append, String.append_assoc]

end Search

end Piece

end PageFilters
