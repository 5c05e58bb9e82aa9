import PageFilters.Proofs.Commuting
import PageFilters.Proofs.Paragraphs

namespace PageFilters.Text

/-- A text cut after each of its line feeds. -/
inductive Cut : List Char → List (List Char) → Prop
  | nil : Cut [] []
  | last {x : List Char} (hne : x ≠ []) (hx : '\n' ∉ x) : Cut x [x]
  | line {x cs : List Char} {ps : List (List Char)} (hx : '\n' ∉ x) (h : Cut cs ps) :
      Cut (x ++ '\n' :: cs) ((x ++ ['\n']) :: ps)

/-- The lines of a text. Each line feed ends one, together with a carriage return right before
it. -/
inductive Lined : List Char → List (List Char) → Prop
  | nil : Lined [] []
  | last {x : List Char} (hne : x ≠ []) (hx : '\n' ∉ x) : Lined x [x]
  | feed {x cs : List Char} {ls : List (List Char)} (hx : '\n' ∉ x)
      (hr : x.getLast? ≠ some '\r') (h : Lined cs ls) : Lined (x ++ '\n' :: cs) (x :: ls)
  | returned {x cs : List Char} {ls : List (List Char)} (hx : '\n' ∉ x) (h : Lined cs ls) :
      Lined (x ++ '\r' :: '\n' :: cs) (x :: ls)

/-- Behind the text a new line begins. -/
def Terminated (cs : List Char) : Prop := cs = [] ∨ cs.getLast? = some '\n'

section Endings

theorem stripEnding_bare {x : List Char} (hx : '\n' ∉ x) : stripEnding x = x := by
  rcases List.eq_nil_or_concat' x with rfl | ⟨y, c, rfl⟩
  · rfl
  · have hc : c ≠ '\n' := by
      rintro rfl
      simp at hx
    simp [stripEnding, hc]

theorem stripEnding_feed {x : List Char} (hr : x.getLast? ≠ some '\r') :
    stripEnding (x ++ ['\n']) = x := by
  rcases List.eq_nil_or_concat' x with rfl | ⟨y, c, rfl⟩
  · rfl
  · have hc : c ≠ '\r' := by simpa using hr
    simp [stripEnding, hc]

theorem stripEnding_returned (x : List Char) : stripEnding (x ++ ['\r'] ++ ['\n']) = x := by
  simp [stripEnding]

end Endings

section Characterizations

theorem cut_iff {cs : List Char} {ps : List (List Char)} : Cut cs ps ↔ ps = pieces cs := by
  constructor
  · intro h
    induction h with
    | nil => rfl
    | last hne hx => exact (pieces_of_not_mem hx hne).symm
    | line hx _ ih => rw [pieces_newline hx, ih]
  · rintro rfl
    induction cs using lines_induction with
    | last x hx =>
      by_cases hnil : x = []
      · subst hnil
        exact .nil
      · rw [pieces_of_not_mem hx hnil]
        exact .last hnil hx
    | line x rest hx ih =>
      rw [pieces_newline hx]
      exact .line hx ih

theorem lines_of_not_mem {x : List Char} (hx : '\n' ∉ x) (hne : x ≠ []) : lines x = [x] := by
  rw [lines, pieces_of_not_mem hx hne, List.map_singleton, stripEnding_bare hx]

theorem lined_iff {cs : List Char} {ls : List (List Char)} : Lined cs ls ↔ ls = lines cs := by
  constructor
  · intro h
    induction h with
    | nil => rfl
    | last hne hx => exact (lines_of_not_mem hx hne).symm
    | feed hx hr _ ih => rw [lines_newline hx, stripEnding_feed hr, ih]
    | @returned x cs ls hx _ ih =>
      have hback : '\n' ∉ x ++ ['\r'] := by simp [hx]
      rw [List.append_cons, lines_newline hback, stripEnding_returned, ih]
  · rintro rfl
    induction cs using lines_induction with
    | last x hx =>
      by_cases hnil : x = []
      · subst hnil
        exact .nil
      · rw [lines_of_not_mem hx hnil]
        exact .last hnil hx
    | line x rest hx ih =>
      rw [lines_newline hx]
      by_cases hr : x.getLast? = some '\r'
      · obtain ⟨y, rfl⟩ := List.getLast?_eq_some_iff.mp hr
        rw [stripEnding_returned, ← List.append_cons]
        exact .returned (fun hy => hx (List.mem_append_left _ hy)) ih
      · rw [stripEnding_feed hr]
        exact .feed hx hr ih

end Characterizations

section Terminated

theorem Terminated.of_newline {x rest : List Char} (h : Terminated (x ++ '\n' :: rest)) :
    Terminated rest := by
  by_cases hrest : rest = []
  · exact .inl hrest
  · have hlast := h.resolve_left (by simp)
    rw [List.append_cons, List.getLast?_append_of_ne_nil _ hrest] at hlast
    exact .inr hlast

theorem pieces_terminated {x : List Char} (hx : Terminated x) (cs : List Char) :
    pieces (x ++ cs) = pieces x ++ pieces cs := by
  induction x using lines_induction with
  | last x hn =>
    rcases hx with rfl | hlast
    · rfl
    · exact absurd (List.mem_of_getLast? hlast) hn
  | line x rest hn ih =>
    rw [List.append_assoc, List.cons_append, pieces_newline hn, pieces_newline hn,
      ih hx.of_newline]
    rfl

theorem lines_terminated {x : List Char} (hx : Terminated x) (cs : List Char) :
    lines (x ++ cs) = lines x ++ lines cs := by
  rw [lines, pieces_terminated hx, List.map_append]
  rfl

theorem blank_of_mem_lines {x : List Char} (hx : isBlank x = true) :
    ∀ l ∈ lines x, isBlank l = true := by
  intro l hl
  obtain ⟨p, hp, rfl⟩ := List.mem_map.mp hl
  have hsub : p ⊆ x := by
    rw [← pieces_flatten x]
    exact fun c hc => List.mem_flatten.mpr ⟨p, hp, hc⟩
  rw [isBlank_stripEnding]
  exact isBlank_of_subset hsub hx

end Terminated

end PageFilters.Text
