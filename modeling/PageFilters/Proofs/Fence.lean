import PageFilters.Marker
import PageFilters.Text.Substitute
import Mathlib.Data.List.Infix

namespace PageFilters

/-- Text in which no marker begins or ends. -/
def Ordinary (cs : List Char) : Prop := Marker.opening ∉ cs ∧ Marker.closing ∉ cs

instance (cs : List Char) : Decidable (Ordinary cs) :=
  inferInstanceAs (Decidable (_ ∧ _))

theorem ordinary_nil : Ordinary [] := by simp [Ordinary]

theorem ordinary_append {u v : List Char} : Ordinary (u ++ v) ↔ Ordinary u ∧ Ordinary v := by
  simp only [Ordinary, List.mem_append, not_or]
  tauto

theorem ordinary_flatMap {α : Type} {f : α → List Char} {l : List α}
    (h : ∀ a ∈ l, Ordinary (f a)) : Ordinary (l.flatMap f) := by
  constructor
  · intro hc
    obtain ⟨a, ha, hc⟩ := List.mem_flatMap.mp hc
    exact (h a ha).1 hc
  · intro hc
    obtain ⟨a, ha, hc⟩ := List.mem_flatMap.mp hc
    exact (h a ha).2 hc

namespace Marker

/-- What all numbered markers have in front of their nonce. -/
def stem : List Char := "__MASON_DEFER_".toList

/-- What stands between the two ends of a numbered marker. -/
def bodyChars (nonce : String) (n : Nat) : List Char :=
  stem ++ nonce.toList ++ '_' :: Nat.toDigits 10 n ++ ['_', '_']

theorem numberedChars_eq (nonce : String) (n : Nat) :
    numberedChars nonce n = opening :: (bodyChars nonce n ++ [closing]) := by
  change opening :: stem ++ nonce.toList ++ '_' :: Nat.toDigits 10 n ++ ['_', '_', closing] = _
  simp [bodyChars]

theorem numbered_toList (nonce : String) (n : Nat) :
    (numbered nonce n).text.toList = opening :: (bodyChars nonce n ++ [closing]) := by
  simp [numbered, numberedChars_eq]

theorem digits_ordinary (n : Nat) : Ordinary (Nat.toDigits 10 n) := by
  have digit : ∀ c ∈ Nat.toDigits 10 n, c.isDigit = true :=
    fun c hc => Nat.isDigit_of_mem_toDigits (by omega) (by omega) hc
  constructor
  · intro hc
    exact absurd (digit _ hc) (by decide)
  · intro hc
    exact absurd (digit _ hc) (by decide)

theorem bodyChars_ordinary {nonce : String} (h : Ordinary nonce.toList) (n : Nat) :
    Ordinary (bodyChars nonce n) := by
  have hd := digits_ordinary n
  have hs : Ordinary stem := by decide
  simp only [bodyChars, List.append_assoc, List.cons_append, ordinary_append]
  refine ⟨hs, h, ?_⟩
  rw [← List.singleton_append, ordinary_append, ordinary_append]
  exact ⟨by decide, hd, by decide⟩

/-- The last fence in a text is where the two sides part. -/
theorem split_last_eq {a b u v : List Char} {o : Char} (hu : o ∉ u) (hv : o ∉ v)
    (h : a ++ o :: u = b ++ o :: v) : a = b ∧ u = v := by
  have hrev := congrArg List.reverse h
  simp only [List.reverse_append, List.reverse_cons, List.append_assoc,
    List.singleton_append] at hrev
  have hpass : ∀ w : List Char, o ∉ w → ∀ c ∈ w.reverse, (c != o) = true := by
    intro w hw c hc
    simpa using fun e : c = o => hw (e ▸ List.mem_reverse.mp hc)
  have htake := congrArg (List.takeWhile (· != o)) hrev
  rw [List.takeWhile_append_of_pos (hpass u hu), List.takeWhile_append_of_pos (hpass v hv)] at htake
  simp only [List.takeWhile_cons, bne_self_eq_false, Bool.false_eq_true, ↓reduceIte,
    List.append_nil, List.reverse_inj] at htake
  subst htake
  simpa using h

theorem bodyChars_injective {nonce other : String} {m n : Nat}
    (h : bodyChars nonce m = bodyChars other n) : nonce = other ∧ m = n := by
  simp only [bodyChars, List.append_assoc, List.cons_append, List.append_cancel_left_eq] at h
  rw [← List.cons_append, ← List.cons_append, ← List.append_assoc, ← List.append_assoc,
    List.append_cancel_right_eq] at h
  obtain ⟨hnonce, hdigits⟩ := split_last_eq (by simp) (by simp) h
  have hv := congrArg (fun digits => Nat.ofDigitChars 10 digits 0) hdigits
  exact ⟨String.toList_inj.mp hnonce, by simpa using hv⟩

end Marker

namespace Text

theorem cutFirst_skip {o : Char} {x u : List Char} (v : List Char) (h : o ∉ u) :
    cutFirst (o :: x) (u ++ v) = (cutFirst (o :: x) v).map fun (a, b) => (u ++ a, b) := by
  induction u with
  | nil =>
    cases hc : cutFirst (o :: x) v with
    | none => simp [hc]
    | some ab => simp [hc]
  | cons c u ih =>
    have hco : o ≠ c := fun e => h (by simp [e])
    have hu : o ∉ u := fun hc => h (by simp [hc])
    simp only [List.cons_append, cutFirst, List.isPrefixOf, beq_eq_false_iff_ne.mpr hco,
      Bool.false_and, Bool.false_eq_true, ↓reduceIte, ih hu, Option.map_map]
    rfl

/-- Two fenced texts of which one is a prefix of the other are the same. -/
theorem fence_prefix_iff {x y rest : List Char} (hx : Marker.closing ∉ x)
    (hy : Marker.closing ∉ y) :
    (x ++ [Marker.closing]).isPrefixOf (y ++ [Marker.closing] ++ rest) = true ↔ x = y := by
  induction x generalizing y with
  | nil =>
    cases y with
    | nil => simp
    | cons b y =>
      have hb : Marker.closing ≠ b := fun e => hy (by simp [e])
      simp [List.isPrefixOf, hb]
  | cons a x ih =>
    have hax : Marker.closing ≠ a ∧ Marker.closing ∉ x := by simpa using hx
    cases y with
    | nil => simp [List.isPrefixOf, Ne.symm hax.1]
    | cons b y =>
      have hy' : Marker.closing ∉ y := fun hc => hy (by simp [hc])
      simp only [List.cons_append, List.isPrefixOf, Bool.and_eq_true, beq_iff_eq, ih hax.2 hy',
        List.cons.injEq]

theorem cutFirst_marker_self {nonce : String} (n : Nat) (v : List Char) :
    cutFirst (Marker.numberedChars nonce n) (Marker.numberedChars nonce n ++ v) = some ([], v) := by
  have hp :
      (Marker.numberedChars nonce n).isPrefixOf (Marker.numberedChars nonce n ++ v) = true := by
    simp
  rw [Marker.numberedChars_eq] at hp ⊢
  simp only [List.cons_append] at hp ⊢
  rw [cutFirst, if_pos hp]
  simp

/-- The search for one marker passes over another one. -/
theorem cutFirst_marker_other {nonce other : String} (hn : Ordinary nonce.toList)
    (ho : Ordinary other.toList) {m n : Nat} (hmn : nonce = other → m ≠ n) (v : List Char) :
    cutFirst (Marker.numberedChars nonce m) (Marker.numberedChars other n ++ v) =
      (cutFirst (Marker.numberedChars nonce m) v).map fun (a, b) =>
        (Marker.numberedChars other n ++ a, b) := by
  have hm := Marker.bodyChars_ordinary hn m
  have hb := Marker.bodyChars_ordinary ho n
  have hne : ¬ Marker.bodyChars nonce m = Marker.bodyChars other n := by
    intro e
    obtain ⟨hnonce, hnumber⟩ := Marker.bodyChars_injective e
    exact hmn hnonce hnumber
  have hpre : (Marker.bodyChars nonce m ++ [Marker.closing]).isPrefixOf
      (Marker.bodyChars other n ++ [Marker.closing] ++ v) = false :=
    Bool.eq_false_iff.mpr fun hp => hne ((fence_prefix_iff hm.2 hb.2).mp hp)
  have hskip : Marker.opening ∉ Marker.bodyChars other n ++ [Marker.closing] := by
    rw [List.mem_append]
    rintro (hc | hc)
    · exact hb.1 hc
    · exact absurd hc (by decide)
  simp only [Marker.numberedChars_eq, List.cons_append]
  rw [cutFirst]
  simp only [List.isPrefixOf, hpre, Bool.and_false, Bool.false_eq_true, ↓reduceIte,
    cutFirst_skip v hskip, Option.map_map]
  rfl

end Text

end PageFilters
