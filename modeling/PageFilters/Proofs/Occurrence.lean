import PageFilters.Proofs.Fence

namespace PageFilters

namespace Text

variable {needle text before after : List Char}

theorem cutFirst_eq_append (h : cutFirst needle text = some (before, after)) :
    text = before ++ needle ++ after := by
  induction text generalizing before with
  | nil =>
    rw [cutFirst] at h
    split at h
    next hempty =>
      cases Option.some.inj h
      simpa using (List.isEmpty_iff.mp hempty).symm
    next => simp at h
  | cons c cs ih =>
    rw [cutFirst] at h
    split at h
    next hprefix =>
      cases Option.some.inj h
      obtain ⟨rest, hrest⟩ := List.isPrefixOf_iff_prefix.mp hprefix
      rw [← hrest]
      simp
    next =>
      obtain ⟨⟨front, back⟩, hcut, hpair⟩ := Option.map_eq_some_iff.mp h
      cases hpair
      rw [ih hcut]
      simp

theorem cutFirst_length_le (h : cutFirst needle text = some (before, after)) {u v : List Char}
    (ht : text = u ++ needle ++ v) : before.length ≤ u.length := by
  induction text generalizing before u with
  | nil =>
    have hnil : before = [] := by
      have happend := cutFirst_eq_append h
      simp only [List.append_assoc, List.nil_eq, List.append_eq_nil_iff] at happend
      exact happend.1
    simp [hnil]
  | cons c cs ih =>
    rw [cutFirst] at h
    split at h
    next =>
      cases Option.some.inj h
      simp
    next hprefix =>
      obtain ⟨⟨front, back⟩, hcut, hpair⟩ := Option.map_eq_some_iff.mp h
      cases hpair
      cases u with
      | nil => exact absurd (List.isPrefixOf_iff_prefix.mpr ⟨v, ht.symm⟩) hprefix
      | cons d u =>
        have htail : cs = u ++ needle ++ v := (List.cons.inj ht).2
        simpa using ih hcut htail

theorem cutFirst_isSome (needle u v : List Char) :
    (cutFirst needle (u ++ needle ++ v)).isSome = true := by
  have hfront : ∀ text, needle <+: text → (cutFirst needle text).isSome = true := by
    intro text hprefix
    cases text with
    | nil => simp [cutFirst, List.prefix_nil.mp hprefix]
    | cons c cs => simp [cutFirst, hprefix]
  induction u with
  | nil => exact hfront _ (List.prefix_append needle v)
  | cons c u ih =>
    by_cases hprefix : needle <+: c :: (u ++ needle ++ v)
    · exact hfront _ hprefix
    · rw [List.cons_append, List.cons_append, cutFirst, if_neg (by simpa using hprefix),
        Option.isSome_map]
      exact ih

/-- The cut is at the first occurrence. -/
theorem cutFirst_eq_some_iff : cutFirst needle text = some (before, after) ↔
    text = before ++ needle ++ after ∧
      ∀ u v, text = u ++ needle ++ v → before.length ≤ u.length := by
  constructor
  · exact fun h => ⟨cutFirst_eq_append h, fun _ _ => cutFirst_length_le h⟩
  · rintro ⟨ht, hfirst⟩
    obtain ⟨⟨front, back⟩, hcut⟩ :=
      Option.isSome_iff_exists.mp (cutFirst_isSome needle before after)
    rw [← ht] at hcut
    have happend := cutFirst_eq_append hcut
    have hlength : before.length = front.length :=
      Nat.le_antisymm (hfirst _ _ happend) (cutFirst_length_le hcut ht)
    have heq : before ++ (needle ++ after) = front ++ (needle ++ back) := by
      rw [← List.append_assoc, ← List.append_assoc, ← ht, happend]
    obtain ⟨rfl, hrest⟩ := List.append_inj heq hlength
    rw [hcut, List.append_cancel_left hrest]

theorem substituteFirst_eq_some_iff {needle words text out : String} :
    substituteFirst needle words text = some out ↔
      ∃ x y, text = x ++ needle ++ y ∧ out = x ++ words ++ y ∧
        ∀ u v, text = u ++ needle ++ v → x.length ≤ u.length := by
  have hchars : ∀ u v : String, text = u ++ needle ++ v ↔
      text.toList = u.toList ++ needle.toList ++ v.toList := by
    intro u v
    rw [← String.toList_inj, String.toList_append, String.toList_append]
  simp only [substituteFirst, replaceFirst, Option.map_map, Option.map_eq_some_iff,
    Function.comp_apply]
  constructor
  · rintro ⟨⟨before, after⟩, hcut, rfl⟩
    obtain ⟨ht, hfirst⟩ := cutFirst_eq_some_iff.mp hcut
    refine ⟨.ofList before, .ofList after, ?_, ?_, ?_⟩
    · rw [hchars, String.toList_ofList, String.toList_ofList]
      exact ht
    · simp [String.ofList_append, String.append_assoc]
    · intro u v huv
      simpa [String.length_toList] using hfirst u.toList v.toList ((hchars u v).mp huv)
  · rintro ⟨x, y, ht, rfl, hfirst⟩
    refine ⟨(x.toList, y.toList), cutFirst_eq_some_iff.mpr ⟨(hchars x y).mp ht, ?_⟩, ?_⟩
    · intro u v huv
      have hstring : text = .ofList u ++ needle ++ .ofList v := by simpa [hchars] using huv
      simpa [String.length_toList] using hfirst _ _ hstring
    · simp [String.ofList_append, String.append_assoc]

theorem substituteFirst_isSome (needle words x y : String) :
    (substituteFirst needle words (x ++ needle ++ y)).isSome = true := by
  rw [substituteFirst, replaceFirst, Option.isSome_map, Option.isSome_map, String.toList_append,
    String.toList_append]
  exact cutFirst_isSome _ _ _

/-- The text with the first occurrence of `needle` replaced, and whether there is one. -/
def substitute (needle replacement text : String) : String × Bool :=
  match substituteFirst needle replacement text with
  | some out => (out, true)
  | none => (text, false)

/-- What comes of a text in which the first occurrence of `needle` is to be replaced. -/
inductive Replaced (needle replacement text : String) : String × Bool → Prop
  | found (x y : String) (h : text = x ++ needle ++ y)
      (first : ∀ u v, text = u ++ needle ++ v → x.length ≤ u.length) :
      Replaced needle replacement text (x ++ replacement ++ y, true)
  | absent (h : ∀ u v, text ≠ u ++ needle ++ v) : Replaced needle replacement text (text, false)

theorem substitute_fst (needle replacement text : String) :
    (substitute needle replacement text).1 =
      (substituteFirst needle replacement text).getD text := by
  unfold substitute
  split
  next h => rw [h, Option.getD_some]
  next h => rw [h, Option.getD_none]

theorem replaced_substitute (needle replacement text : String) :
    Replaced needle replacement text (substitute needle replacement text) := by
  unfold substitute
  split
  next out hout =>
    obtain ⟨x, y, htext, rfl, hfirst⟩ := substituteFirst_eq_some_iff.mp hout
    exact .found x y htext hfirst
  next hnone =>
    refine .absent fun u v huv => ?_
    have hsome := substituteFirst_isSome needle replacement u v
    rw [← huv, hnone] at hsome
    cases hsome

theorem replaced_iff {needle replacement text : String} {out : String × Bool} :
    Replaced needle replacement text out ↔ out = substitute needle replacement text := by
  constructor
  · rintro (⟨x, y, htext, hfirst⟩ | habsent)
    · rw [substitute, substituteFirst_eq_some_iff.mpr ⟨x, y, htext, rfl, hfirst⟩]
    · have hsubstitute := replaced_substitute needle replacement text
      generalize substitute needle replacement text = out at hsubstitute ⊢
      cases hsubstitute with
      | found x y htext _ => exact absurd htext (habsent x y)
      | absent _ => rfl
  · rintro rfl
    exact replaced_substitute needle replacement text

end Text

namespace Marker

/-- The two markers never overlap: where both stand in a text, one stands before the other. -/
def Apart (m n : Marker) : Prop :=
  ∀ u v x y, u ++ m.text ++ v = x ++ n.text ++ y →
    (∃ w, x = u ++ m.text ++ w ∧ v = w ++ n.text ++ y) ∨
    (∃ w, u = x ++ n.text ++ w ∧ y = w ++ m.text ++ v)

/-- The marker stands in the text at most once. -/
def Single (m : Marker) (text : String) : Prop :=
  ∀ u v x y, text = u ++ m.text ++ v → text = x ++ m.text ++ y → u = x

/-- A text with room for one marker only. -/
theorem numbered_single {nonce text : String} (h : text.toList.count opening ≤ 1) (n : Nat) :
    (numbered nonce n).Single text := by
  have hsplit : ∀ u v, text = u ++ (numbered nonce n).text ++ v →
      ∃ rest, text.toList = u.toList ++ opening :: rest ∧ opening ∉ rest := by
    rintro u v rfl
    have htext : (u ++ (numbered nonce n).text ++ v).toList =
        u.toList ++ opening :: (bodyChars nonce n ++ [closing] ++ v.toList) := by
      simp [String.toList_append, numbered_toList]
    refine ⟨_, htext, ?_⟩
    rw [htext, List.count_append, List.count_cons_self] at h
    exact List.count_eq_zero.mp (by omega)
  intro u v x y hu hx
  obtain ⟨rest, hrest, hnone⟩ := hsplit u v hu
  obtain ⟨rest', hrest', hnone'⟩ := hsplit x y hx
  exact String.toList_inj.mp (split_last_eq hnone hnone' (hrest.symm.trans hrest')).1

/-- A marker that begins where or after another one begins does so behind it. -/
theorem numberedChars_behind {nonce : String} (hn : Ordinary nonce.toList) {i j : Nat} (h : i ≠ j)
    {v w y : List Char} (heq : numberedChars nonce i ++ v = w ++ (numberedChars nonce j ++ y)) :
    ∃ w', w = numberedChars nonce i ++ w' ∧ v = w' ++ (numberedChars nonce j ++ y) := by
  rw [numberedChars_eq, numberedChars_eq] at heq ⊢
  have hi := bodyChars_ordinary hn i
  have hj := bodyChars_ordinary hn j
  have hend : opening ∉ bodyChars nonce i ++ [closing] := by
    rw [List.mem_append]
    rintro (hc | hc)
    · exact hi.1 hc
    · exact absurd hc (by decide)
  cases w with
  | nil =>
    have htail := (List.cons.inj heq).2
    have hprefix : (bodyChars nonce i ++ [closing]).isPrefixOf
        (bodyChars nonce j ++ [closing] ++ y) = true :=
      List.isPrefixOf_iff_prefix.mpr ⟨v, htail⟩
    have hbody := (Text.fence_prefix_iff hi.2 hj.2).mp hprefix
    exact absurd (bodyChars_injective hbody).2 h
  | cons c w =>
    obtain ⟨rfl, htail⟩ := List.cons.inj heq
    rcases List.append_eq_append_iff.mp htail with ⟨w', rfl, hv⟩ | ⟨w', hbody, hw⟩
    · exact ⟨w', rfl, hv⟩
    · cases w' with
      | nil => exact ⟨[], by simp [hbody], by simpa using hw.symm⟩
      | cons d w' =>
        -- The second marker would begin inside the first.
        obtain ⟨rfl, _⟩ := List.cons.inj hw
        exact absurd (hbody ▸ List.mem_append_right w List.mem_cons_self) hend

theorem numbered_apart {nonce : String} (hn : Ordinary nonce.toList) {i j : Nat} (h : i ≠ j) :
    (numbered nonce i).Apart (numbered nonce j) := by
  intro u v x y heq
  have hchars : u.toList ++ (numberedChars nonce i ++ v.toList) =
      x.toList ++ (numberedChars nonce j ++ y.toList) := by
    have hlist := congrArg String.toList heq
    simpa [numbered, String.toList_append] using hlist
  rcases List.append_eq_append_iff.mp hchars with ⟨w, hx, hw⟩ | ⟨w, hu, hw⟩
  · obtain ⟨w', rfl, hv⟩ := numberedChars_behind hn h hw
    exact .inl ⟨.ofList w', by simp [← String.toList_inj, numbered, hx],
      by simp [← String.toList_inj, numbered, hv]⟩
  · obtain ⟨w', rfl, hy⟩ := numberedChars_behind hn h.symm hw
    exact .inr ⟨.ofList w', by simp [← String.toList_inj, numbered, hu],
      by simp [← String.toList_inj, numbered, hy]⟩

end Marker

end PageFilters
