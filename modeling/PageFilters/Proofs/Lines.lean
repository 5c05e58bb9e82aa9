import PageFilters.Text.Html
import Mathlib.Data.List.TakeWhile
import Mathlib.Data.List.Induction

namespace PageFilters.Text

theorem pieces_cons {c : Char} (hc : c ≠ '\n') (cs : List Char) :
    pieces (c :: cs) = match pieces cs with
      | [] => [[c]]
      | p :: ps => (c :: p) :: ps := by
  cases hp : pieces cs with
  | nil => simp [pieces, hc, hp]
  | cons p ps => simp [pieces, hc, hp]

theorem pieces_append {x : List Char} (hx : '\n' ∉ x) (hne : x ≠ []) (cs : List Char) :
    pieces (x ++ cs) = match pieces cs with
      | [] => [x]
      | p :: ps => (x ++ p) :: ps := by
  induction x with
  | nil => exact absurd rfl hne
  | cons c x ih =>
    have hc : c ≠ '\n' := fun e => hx (by simp [e])
    rw [List.cons_append, pieces_cons hc]
    by_cases hnil : x = []
    · subst hnil
      rfl
    · rw [ih (fun hm => hx (by simp [hm])) hnil]
      cases pieces cs with
      | nil => rfl
      | cons p ps => rfl

theorem pieces_newline {x : List Char} (hx : '\n' ∉ x) (cs : List Char) :
    pieces (x ++ '\n' :: cs) = (x ++ ['\n']) :: pieces cs := by
  by_cases hnil : x = []
  · subst hnil
    simp [pieces]
  · rw [pieces_append hx hnil]
    simp [pieces]

theorem pieces_of_not_mem {x : List Char} (hx : '\n' ∉ x) (hne : x ≠ []) : pieces x = [x] := by
  have h := pieces_append hx hne []
  rwa [List.append_nil] at h

theorem pieces_ne_nil {cs p : List Char} {ps : List (List Char)} (h : pieces cs = p :: ps) :
    p ≠ [] := by
  cases cs with
  | nil => simp [pieces] at h
  | cons c cs =>
    rw [pieces] at h
    split at h
    next => simp [← (List.cons.inj h).1]
    next =>
      split at h
      next => simp [← (List.cons.inj h).1]
      next => simp [← (List.cons.inj h).1]

theorem pieces_flatten (cs : List Char) : (pieces cs).flatten = cs := by
  induction cs with
  | nil => rfl
  | cons c cs ih =>
    by_cases hc : c = '\n'
    · rw [pieces, if_pos hc, List.flatten_cons, ih]
      rfl
    · rw [pieces_cons hc]
      cases hp : pieces cs with
      | nil =>
        rw [hp] at ih
        simpa using ih
      | cons p ps =>
        rw [hp] at ih
        simpa using ih

theorem stripEnding_nil : stripEnding [] = [] := rfl

/-- Only a carriage return right before the line feed goes with it. -/
theorem stripEnding_cons {c : Char} {p : List Char} (hc : p = [] → c ≠ '\n')
    (hp : c = '\r' → p ≠ ['\n']) : stripEnding (c :: p) = c :: stripEnding p := by
  induction p using List.reverseRecOn with
  | nil =>
    have hn := hc rfl
    simp [stripEnding, hn]
  | append_singleton q z _ =>
    by_cases hz : z = '\n'
    · subst hz
      induction q using List.reverseRecOn with
      | nil =>
        have hr : c ≠ '\r' := fun e => hp e rfl
        simp [stripEnding, hr]
      | append_singleton q y _ =>
        by_cases hy : y = '\r'
        · simp [stripEnding, hy]
        · simp [stripEnding, hy]
    · simp [stripEnding, hz]

theorem stripEnding_append (x : List Char) {c : Char} {p : List Char} (hn : c ≠ '\n')
    (hr : c ≠ '\r') : stripEnding (x ++ c :: p) = x ++ c :: stripEnding p := by
  induction x with
  | nil => exact stripEnding_cons (fun _ => hn) (fun e => absurd e hr)
  | cons d x ih =>
    rw [List.cons_append, stripEnding_cons (by simp) ?_, ih]
    · rfl
    · rintro - he
      cases x with
      | nil => simp_all
      | cons a x => simp at he

theorem toNat_lt_of_isAlphanum {c : Char} (h : c.isAlphanum = true) : c.toNat < 128 := by
  have hlt : ∀ bound : UInt32, c.val ≤ bound → bound.toNat < 128 → c.toNat < 128 :=
    fun _ hc hb => Nat.lt_of_le_of_lt (UInt32.le_iff_toNat_le.mp hc) hb
  obtain halpha | hdigit := Bool.or_eq_true_iff.mp h
  · obtain hupper | hlower := Bool.or_eq_true_iff.mp halpha
    · exact hlt _ (of_decide_eq_true hupper).2 (by decide)
    · exact hlt _ (of_decide_eq_true (Bool.and_eq_true_iff.mp hlower).2) (by decide)
  · exact hlt _ (of_decide_eq_true (Bool.and_eq_true_iff.mp hdigit).2) (by decide)

theorem isBlank_append (x y : List Char) : isBlank (x ++ y) = (isBlank x && isBlank y) := by
  simp [isBlank]

/-- What `stripEnding` drops is white space. -/
theorem exists_ending (p : List Char) :
    ∃ ending, p = stripEnding p ++ ending ∧ isBlank ending = true := by
  unfold stripEnding
  split
  next cs h =>
    refine ⟨['\r', '\n'], ?_, by decide⟩
    rw [← List.reverse_reverse p, h]
    simp
  next cs _ h =>
    refine ⟨['\n'], ?_, by decide⟩
    rw [← List.reverse_reverse p, h]
    simp
  next => exact ⟨[], by simp, rfl⟩

theorem isBlank_stripEnding (p : List Char) : isBlank (stripEnding p) = isBlank p := by
  obtain ⟨ending, hp, hblank⟩ := exists_ending p
  conv_rhs => rw [hp, isBlank_append, hblank, Bool.and_true]

theorem isBlank_of_not_isSpace (x : List Char) {c : Char} (hc : isSpace c = false)
    (y : List Char) : isBlank (x ++ c :: y) = false := by
  simp [isBlank, hc]

theorem dropBlankLines_blank {x : List Char} (hn : '\n' ∉ x) : dropBlankLines x = x := by
  by_cases hnil : x = []
  · subst hnil
    rfl
  · have hlast : x.getLast? ≠ some '\n' := fun e => hn (List.mem_of_getLast? e)
    have hkeep : isBlankLine x = false := by simp [isBlankLine, hlast]
    simp [dropBlankLines, pieces_of_not_mem hn hnil, hkeep]

theorem dropBlankLines_newline {x : List Char} (hn : '\n' ∉ x) (hb : isBlank x = true)
    (cs : List Char) : dropBlankLines (x ++ '\n' :: cs) = dropBlankLines cs := by
  have hdrop : isBlankLine (x ++ ['\n']) = true := by
    simp only [isBlankLine, isBlank_append, hb, List.getLast?_concat]
    decide
  simp [dropBlankLines, pieces_newline hn, hdrop]

/-- The text up to the end of a line that is kept, and what `dropBlankLines` keeps behind it. -/
def keepLine (cs : List Char) : List Char :=
  match pieces cs with
  | [] => []
  | p :: ps => p ++ (ps.filter fun piece => !isBlankLine piece).flatten

theorem keepLine_newline (cs : List Char) : keepLine ('\n' :: cs) = '\n' :: dropBlankLines cs := by
  simp [keepLine, pieces, dropBlankLines]

theorem keepLine_cons {c : Char} (hc : c ≠ '\n') (cs : List Char) :
    keepLine (c :: cs) = c :: keepLine cs := by
  rw [keepLine, keepLine, pieces_cons hc]
  cases pieces cs with
  | nil => rfl
  | cons p ps => rfl

theorem dropBlankLines_word {x : List Char} (hn : '\n' ∉ x) {c : Char} (hc : isSpace c = false)
    (cs : List Char) : dropBlankLines (x ++ c :: cs) = x ++ c :: keepLine cs := by
  have hnl : c ≠ '\n' := by
    rintro rfl
    exact absurd hc (by decide)
  have hx : '\n' ∉ x ++ [c] := by simp [hn, Ne.symm hnl]
  have hkeep : ∀ y, isBlankLine (x ++ c :: y) = false := fun y => by
    simp [isBlankLine, isBlank_of_not_isSpace x hc]
  have happ : x ++ c :: cs = (x ++ [c]) ++ cs := by simp
  rw [dropBlankLines, keepLine, happ, pieces_append hx (by simp)]
  cases pieces cs with
  | nil => simp [hkeep]
  | cons p ps => simp [hkeep]

theorem trimEnd_of_blank {x : List Char} (h : isBlank x = true) : trimEnd x = [] := by
  rw [trimEnd, List.reverse_eq_nil_iff, List.dropWhile_eq_nil_iff]
  intro c hc
  exact List.all_eq_true.mp h c (List.mem_reverse.mp hc)

theorem trimEnd_append (x : List Char) {c : Char} (hc : isSpace c = false) (y : List Char) :
    trimEnd (x ++ c :: y) = x ++ c :: trimEnd y := by
  have hrev : (x ++ c :: y).reverse = y.reverse ++ c :: x.reverse := by simp
  rw [trimEnd, trimEnd, hrev, List.dropWhile_append]
  split
  next h =>
    rw [List.isEmpty_iff] at h
    simp [h, hc]
  next => simp

end PageFilters.Text
