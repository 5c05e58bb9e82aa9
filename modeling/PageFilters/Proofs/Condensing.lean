import PageFilters.Proofs.Cutting

namespace PageFilters.Text

/-- What is kept of the pieces of a text when those that are blank and end in a line feed go. -/
structure Condensed (ps kept : List (List Char)) : Prop where
  order : kept.Sublist ps
  words : kept.filter (!isBlank ·) = ps.filter (!isBlank ·)
  ended : ∀ p ∈ kept, p.getLast? = some '\n' → isBlank p = false
  tail : ∀ p, ps.getLast? = some p → p.getLast? ≠ some '\n' → kept.getLast? = some p

theorem condensed_filter (ps : List (List Char)) :
    Condensed ps (ps.filter (!isBlankLine ·)) where
  order := List.filter_sublist
  words := by
    rw [List.filter_filter]
    refine List.filter_congr fun p _ => ?_
    cases hp : isBlank p <;> simp [isBlankLine, hp]
  ended p hp hlast := by
    have hkeep := (List.mem_filter.mp hp).2
    simpa [isBlankLine, hlast] using hkeep
  tail p hp hlast := by
    obtain ⟨qs, rfl⟩ := List.getLast?_eq_some_iff.mp hp
    have hkeep : isBlankLine p = false := by simp [isBlankLine, hlast]
    simp [hkeep]

namespace Condensed

variable {q : List Char} {ps kept : List (List Char)}

theorem of_skip (h : Condensed (q :: ps) kept) (hq : isBlank q = true) (hkept : kept.Sublist ps) :
    Condensed ps kept where
  order := hkept
  words := by rw [h.words, List.filter_cons_of_neg (by simp [hq])]
  ended := h.ended
  tail p hp hlast := h.tail p (by rw [List.getLast?_cons, hp]; rfl) hlast

theorem of_keep (h : Condensed (q :: ps) (q :: kept)) (hlast : q.getLast? = some '\n')
    (hkept : kept.Sublist ps) : Condensed ps kept where
  order := hkept
  words := by
    have hq := h.ended q List.mem_cons_self hlast
    have hwords := h.words
    rw [List.filter_cons_of_pos (by simp [hq]), List.filter_cons_of_pos (by simp [hq])] at hwords
    exact List.tail_eq_of_cons_eq hwords
  ended p hp := h.ended p (List.mem_cons_of_mem q hp)
  tail p hp hopen := by
    have hkept := h.tail p (by rw [List.getLast?_cons, hp]; rfl) hopen
    cases kept with
    | nil =>
      cases hkept
      exact absurd hlast hopen
    | cons r rest => rwa [List.getLast?_cons_cons] at hkept

/-- A piece with a word in it is not left out. -/
theorem not_sublist_tail (h : Condensed (q :: ps) kept) (hq : isBlank q = false) :
    ¬ kept.Sublist ps := by
  intro hkept
  have hle := (hkept.filter (!isBlank ·)).length_le
  rw [h.words, List.filter_cons_of_pos (by simp [hq]), List.length_cons] at hle
  omega

/-- The four rules leave no choice. -/
theorem eq_filter {cs : List Char} (cut : Cut cs ps) (h : Condensed ps kept) :
    kept = ps.filter (!isBlankLine ·) := by
  induction cut generalizing kept with
  | nil => exact List.sublist_nil.mp h.order
  | @last x hne hx =>
    have hlast : x.getLast? ≠ some '\n' := fun e => hx (List.mem_of_getLast? e)
    have hkeep : isBlankLine x = false := by simp [isBlankLine, hlast]
    have htail := h.tail x rfl hlast
    rw [List.filter_cons_of_pos (by simp [hkeep])]
    rcases List.sublist_singleton.mp h.order with rfl | rfl
    · cases htail
    · rfl
  | @line x cs ps hx _ ih =>
    have hlast : (x ++ ['\n']).getLast? = some '\n' := List.getLast?_concat
    cases hq : isBlank (x ++ ['\n']) with
    | true =>
      have hdrop : isBlankLine (x ++ ['\n']) = true := by simp [isBlankLine, hlast, hq]
      rw [List.filter_cons_of_neg (by simp [hdrop])]
      cases h.order with
      | cons _ hkept => exact ih (h.of_skip hq hkept)
      | cons_cons _ hkept =>
        have hword := h.ended _ List.mem_cons_self hlast
        rw [hq] at hword
        cases hword
    | false =>
      have hkeep : isBlankLine (x ++ ['\n']) = false := by simp [isBlankLine, hq]
      rw [List.filter_cons_of_pos (by simp [hkeep])]
      cases h.order with
      | cons _ hkept => exact absurd hkept (h.not_sublist_tail hq)
      | cons_cons _ hkept => rw [ih (h.of_keep hlast hkept)]

end Condensed

theorem words_lines_dropBlankLines (cs : List Char) :
    (lines (dropBlankLines cs)).filter (!isBlank ·) = (lines cs).filter (!isBlank ·) := by
  have hwords := (condensed_filter (pieces cs)).words
  rw [lines, lines, pieces_dropBlankLines, List.filter_map, List.filter_map]
  simp only [Function.comp_def, isBlank_stripEnding]
  exact congrArg (List.map stripEnding) hwords

theorem dropBlankLines_terminated {x : List Char} (hx : Terminated x) (cs : List Char) :
    dropBlankLines (x ++ cs) = dropBlankLines x ++ dropBlankLines cs := by
  simp only [dropBlankLines, pieces_terminated hx, List.filter_append, List.flatten_append]

/-- Of the pieces of a text exactly the blank ones that end in a line feed go, and those that stay
are the pieces of the result. -/
theorem noBlankLines_condenses (s : String) :
    ∃ ps kept, (∀ qs, Cut s.toList qs ↔ qs = ps) ∧
      (∀ qs, Cut (noBlankLines s).toList qs ↔ qs = kept) ∧
      (∀ qs, Condensed ps qs ↔ qs = kept) ∧
      (lines (noBlankLines s).toList).filter (!isBlank ·) =
        (lines s.toList).filter (!isBlank ·) ∧
      noBlankLines (noBlankLines s) = noBlankLines s ∧
      (Terminated s.toList → ∀ t, noBlankLines (s ++ t) = noBlankLines s ++ noBlankLines t) := by
  have hout : (noBlankLines s).toList = dropBlankLines s.toList := String.toList_ofList
  have hpieces := pieces_dropBlankLines s.toList
  refine ⟨pieces s.toList, pieces (dropBlankLines s.toList), fun _ => cut_iff, fun _ => ?_,
    fun qs => ⟨fun h => ?_, ?_⟩, ?_, noBlankLines_noBlankLines s, fun hs t => ?_⟩
  · rw [hout, cut_iff]
  · rw [hpieces]
    exact h.eq_filter (cut_iff.mpr rfl)
  · rintro rfl
    rw [hpieces]
    exact condensed_filter _
  · rw [hout, words_lines_dropBlankLines]
  · rw [noBlankLines, noBlankLines, noBlankLines, String.toList_append,
      dropBlankLines_terminated hs, String.ofList_append]

/-- A blank line with a carriage return goes, and blanks behind the last line feed stay. -/
theorem noBlankLines_condenses_returned :
    Terminated "a\n \r\n".toList ∧
      noBlankLines ("a\n \r\n" ++ "\nb\n ") = noBlankLines "a\n \r\n" ++ noBlankLines "\nb\n " ∧
      noBlankLines ("a\n \r\n" ++ "\nb\n ") = "a\nb\n " := by
  have hends : Terminated "a\n \r\n".toList := .inr (by decide)
  obtain ⟨_, _, _, _, _, _, _, happend⟩ := noBlankLines_condenses "a\n \r\n"
  have hparts := happend hends "\nb\n "
  exact ⟨hends, hparts, hparts.trans (by decide +kernel)⟩

end PageFilters.Text
