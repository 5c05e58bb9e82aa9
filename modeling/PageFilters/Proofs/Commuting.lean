import PageFilters.Proofs.Lines
import Mathlib.Data.List.Basic
import Mathlib.Data.List.Flatten
import Mathlib.Logic.Function.Conjugate

namespace PageFilters.Text

theorem isBlank_cons (c : Char) (cs : List Char) : isBlank (c :: cs) = (isSpace c && isBlank cs) :=
  rfl

theorem isBlank_of_subset {x y : List Char} (h : x ⊆ y) (hy : isBlank y = true) :
    isBlank x = true :=
  List.all_eq_true.mpr fun c hc => List.all_eq_true.mp hy c (h hc)

/-- A text is blank, or begins with a word behind white space. -/
theorem blank_or_word (cs : List Char) :
    isBlank cs = true ∨
      ∃ left c rest, cs = left ++ c :: rest ∧ isBlank left = true ∧ isSpace c = false := by
  induction cs with
  | nil => exact .inl rfl
  | cons c cs ih =>
    by_cases hc : isSpace c = true
    · rcases ih with hblank | ⟨left, d, rest, rfl, hleft, hd⟩
      · exact .inl (by rw [isBlank_cons, hc, hblank]; rfl)
      · exact .inr ⟨c :: left, d, rest, rfl, by rw [isBlank_cons, hc, hleft]; rfl, hd⟩
    · exact .inr ⟨[], c, cs, rfl, rfl, by simpa using hc⟩

/-- A text is blank, or ends with a word in front of white space. -/
theorem blank_or_last_word (cs : List Char) :
    isBlank cs = true ∨
      ∃ front c right, cs = front ++ c :: right ∧ isSpace c = false ∧ isBlank right = true := by
  have hback : ∀ x : List Char, isBlank x.reverse = isBlank x := fun x => List.all_reverse
  rcases blank_or_word cs.reverse with hblank | ⟨left, c, rest, hcs, hleft, hc⟩
  · exact .inl (by rw [← hback, hblank])
  · refine .inr ⟨rest.reverse, c, left.reverse, ?_, hc, by rw [hback, hleft]⟩
    rw [← List.reverse_reverse cs, hcs]
    simp

section Trim

theorem trimStart_of_blank {x : List Char} (h : isBlank x = true) : trimStart x = [] :=
  List.dropWhile_eq_nil_iff.mpr (List.all_eq_true.mp h)

theorem trimStart_append {left : List Char} {c : Char} (hleft : isBlank left = true)
    (hc : isSpace c = false) (rest : List Char) : trimStart (left ++ c :: rest) = c :: rest := by
  rw [trimStart, List.dropWhile_append_of_pos (List.all_eq_true.mp hleft)]
  simp [hc]

theorem trimEnd_idem (cs : List Char) : trimEnd (trimEnd cs) = trimEnd cs := by
  rcases blank_or_last_word cs with hblank | ⟨front, c, right, rfl, hc, hright⟩
  · rw [trimEnd_of_blank hblank]
    rfl
  · rw [trimEnd_append front hc, trimEnd_of_blank hright, trimEnd_append front hc]
    rfl

theorem trimChars_idem (cs : List Char) : trimChars (trimChars cs) = trimChars cs := by
  rcases blank_or_word cs with hblank | ⟨left, c, rest, rfl, hleft, hc⟩
  · simp only [trimChars, trimStart_of_blank hblank]
    rfl
  · have htrim : trimEnd (c :: rest) = c :: trimEnd rest := trimEnd_append [] hc rest
    have hstart : trimStart (c :: trimEnd rest) = c :: trimEnd rest := by
      rw [trimStart, List.dropWhile_cons_of_neg (by simp [hc])]
    rw [trimChars, trimChars, trimStart_append hleft hc, htrim, hstart, ← htrim, trimEnd_idem]

end Trim

section Escape

theorem entity_space {c : Char} (hc : isSpace c = true) : entity c = [c] := by
  have hplain : ∀ d, isSpace d = false → c ≠ d := by
    rintro d hd rfl
    rw [hc] at hd
    cases hd
  simp only [entity, hplain '&' (by decide), hplain '<' (by decide), hplain '>' (by decide),
    hplain '"' (by decide), hplain '\'' (by decide), if_false]

theorem entity_word {c : Char} (hc : isSpace c = false) :
    entity c ≠ [] ∧ ∀ d ∈ entity c, isSpace d = false := by
  have hall : entity c ≠ [] ∧ (entity c).all (!isSpace ·) = true := by
    unfold entity
    split_ifs
    next => decide
    next => decide
    next => decide
    next => decide
    next => decide
    next => simp [hc]
  exact ⟨hall.1, fun d hd => by simpa using List.all_eq_true.mp hall.2 d hd⟩

theorem escapeChars_cons (c : Char) (cs : List Char) :
    escapeChars (c :: cs) = entity c ++ escapeChars cs := by
  simp [escapeChars]

theorem escapeChars_append (x y : List Char) :
    escapeChars (x ++ y) = escapeChars x ++ escapeChars y := by
  simp [escapeChars]

theorem isBlank_escapeChars (cs : List Char) : isBlank (escapeChars cs) = isBlank cs := by
  induction cs with
  | nil => rfl
  | cons c cs ih =>
    rw [escapeChars_cons, isBlank_append, ih, isBlank_cons]
    by_cases hc : isSpace c = true
    · simp [entity_space hc, isBlank, hc]
    · have hfalse : isSpace c = false := by simpa using hc
      obtain ⟨hne, hall⟩ := entity_word hfalse
      obtain ⟨d, rest, hentity⟩ := List.exists_cons_of_ne_nil hne
      rw [hentity, isBlank_cons, hall d (by simp [hentity]), hfalse]
      rfl

theorem escapeChars_of_blank {x : List Char} (h : isBlank x = true) : escapeChars x = x := by
  induction x with
  | nil => rfl
  | cons c x ih =>
    rw [isBlank_cons, Bool.and_eq_true] at h
    rw [escapeChars_cons, entity_space h.1, ih h.2]
    rfl

theorem escapeChars_trimStart (cs : List Char) :
    escapeChars (trimStart cs) = trimStart (escapeChars cs) := by
  rcases blank_or_word cs with hblank | ⟨left, c, rest, rfl, hleft, hc⟩
  · rw [escapeChars_of_blank hblank, trimStart_of_blank hblank]
    rfl
  · obtain ⟨hne, hall⟩ := entity_word hc
    obtain ⟨d, more, hentity⟩ := List.exists_cons_of_ne_nil hne
    have hd : isSpace d = false := hall d (by simp [hentity])
    rw [trimStart_append hleft hc, escapeChars_append, escapeChars_of_blank hleft,
      escapeChars_cons, hentity, List.cons_append, trimStart_append hleft hd]

theorem escapeChars_trimEnd (cs : List Char) :
    escapeChars (trimEnd cs) = trimEnd (escapeChars cs) := by
  rcases blank_or_last_word cs with hblank | ⟨front, c, right, rfl, hc, hright⟩
  · rw [escapeChars_of_blank hblank, trimEnd_of_blank hblank]
    rfl
  · obtain ⟨hne, hall⟩ := entity_word hc
    obtain ⟨more, d, hentity⟩ := (List.eq_nil_or_concat' (entity c)).resolve_left hne
    have hd : isSpace d = false := hall d (by simp [hentity])
    have hescape : ∀ x, escapeChars (front ++ c :: x) =
        (escapeChars front ++ more) ++ d :: escapeChars x := by
      intro x
      simp [escapeChars_append, escapeChars_cons, hentity]
    rw [trimEnd_append front hc, trimEnd_of_blank hright, hescape, hescape, trimEnd_append _ hd,
      escapeChars_of_blank hright, trimEnd_of_blank hright]
    rfl

theorem escapeChars_trimChars (cs : List Char) :
    escapeChars (trimChars cs) = trimChars (escapeChars cs) := by
  rw [trimChars, escapeChars_trimEnd, escapeChars_trimStart, trimChars]

theorem newline_not_mem_entity {c : Char} (hc : c ≠ '\n') : '\n' ∉ entity c := by
  by_cases hs : isSpace c = true
  · simp [entity_space hs, Ne.symm hc]
  · intro hmem
    exact absurd ((entity_word (by simpa using hs)).2 _ hmem) (by decide)

theorem entity_ne_nil (c : Char) : entity c ≠ [] := by
  by_cases hs : isSpace c = true
  · simp [entity_space hs]
  · exact (entity_word (by simpa using hs)).1

theorem pieces_escapeChars (cs : List Char) :
    pieces (escapeChars cs) = (pieces cs).map escapeChars := by
  induction cs with
  | nil => rfl
  | cons c cs ih =>
    by_cases hc : c = '\n'
    · subst hc
      have hentity : entity '\n' = ['\n'] := by decide
      rw [escapeChars_cons, hentity, List.singleton_append, pieces, if_pos rfl, ih, pieces,
        if_pos rfl, List.map_cons]
      rfl
    · rw [escapeChars_cons, pieces_append (newline_not_mem_entity hc) (entity_ne_nil c), ih,
        pieces_cons hc]
      cases pieces cs with
      | nil => simp [escapeChars]
      | cons p ps => simp [escapeChars_cons]

theorem isBlankLine_escapeChars (p : List Char) : isBlankLine (escapeChars p) = isBlankLine p := by
  rw [isBlankLine, isBlankLine, isBlank_escapeChars]
  congr 1
  rcases List.eq_nil_or_concat' p with rfl | ⟨q, c, rfl⟩
  · rfl
  · have hescape : escapeChars (q ++ [c]) = escapeChars q ++ entity c := by
      simp [escapeChars]
    rw [hescape, List.getLast?_append_of_ne_nil _ (entity_ne_nil c)]
    by_cases hc : c = '\n'
    · subst hc
      simp [show entity '\n' = ['\n'] by decide]
    · have hlast : (entity c).getLast? ≠ some '\n' :=
        fun h => newline_not_mem_entity hc (List.mem_of_getLast? h)
      simp [hlast, hc]

theorem escapeChars_flatten (ps : List (List Char)) :
    escapeChars ps.flatten = (ps.map escapeChars).flatten := by
  induction ps with
  | nil => rfl
  | cons p ps ih => rw [List.flatten_cons, escapeChars_append, ih, List.map_cons, List.flatten_cons]

theorem escapeChars_dropBlankLines (cs : List Char) :
    escapeChars (dropBlankLines cs) = dropBlankLines (escapeChars cs) := by
  rw [dropBlankLines, dropBlankLines, pieces_escapeChars, escapeChars_flatten, List.filter_map]
  simp only [Function.comp_def, isBlankLine_escapeChars]

end Escape

section Lines

/-- Texts line by line: the last line has no end, and every other one ends in a line feed. -/
theorem lines_induction {P : List Char → Prop} (last : ∀ x, '\n' ∉ x → P x)
    (line : ∀ x rest, '\n' ∉ x → P rest → P (x ++ '\n' :: rest)) (cs : List Char) : P cs := by
  have hline : ∀ x, '\n' ∉ x → P (x ++ cs) := by
    induction cs with
    | nil =>
      intro x hx
      rw [List.append_nil]
      exact last x hx
    | cons c cs ih =>
      intro x hx
      by_cases hc : c = '\n'
      · subst hc
        exact line x cs hx (ih [] (by simp))
      · have hnext := ih (x ++ [c]) (by simp [hx, Ne.symm hc])
        rwa [List.append_assoc] at hnext
  exact hline [] (by simp)

/-- Pieces of which some are left out are the pieces of the text that they make. -/
theorem pieces_filter (keep : List Char → Bool) (cs : List Char) :
    pieces ((pieces cs).filter keep).flatten = (pieces cs).filter keep := by
  induction cs using lines_induction with
  | last x hx =>
    by_cases hnil : x = []
    · subst hnil
      rfl
    · rw [pieces_of_not_mem hx hnil, List.filter_singleton]
      cases keep x with
      | true => simpa using pieces_of_not_mem hx hnil
      | false => rfl
  | line x rest hx ih =>
    rw [pieces_newline hx, List.filter_cons]
    split
    next =>
      rw [List.flatten_cons, List.append_assoc, List.singleton_append, pieces_newline hx, ih]
    next => exact ih

theorem pieces_dropBlankLines (cs : List Char) :
    pieces (dropBlankLines cs) = (pieces cs).filter fun piece => !isBlankLine piece :=
  pieces_filter _ cs

theorem dropBlankLines_idem (cs : List Char) :
    dropBlankLines (dropBlankLines cs) = dropBlankLines cs := by
  rw [dropBlankLines, pieces_dropBlankLines, List.filter_filter]
  simp only [Bool.and_self]
  rfl

theorem dropBlankLines_sublist (cs : List Char) : (dropBlankLines cs).Sublist cs := by
  have hsublist := List.Sublist.flatten (List.filter_sublist (l := pieces cs)
    (p := fun piece => !isBlankLine piece))
  rwa [pieces_flatten] at hsublist

theorem dropBlankLines_line {x : List Char} (hn : '\n' ∉ x) (hx : isBlank x = false)
    (cs : List Char) : dropBlankLines (x ++ '\n' :: cs) = x ++ '\n' :: dropBlankLines cs := by
  have hkeep : isBlankLine (x ++ ['\n']) = false := by simp [isBlankLine, isBlank_append, hx]
  simp [dropBlankLines, pieces_newline hn, hkeep]

/-- What is kept of a text up to one of its words does not depend on what comes behind it. -/
theorem dropBlankLines_append (front : List Char) {c : Char} (hc : isSpace c = false) :
    ∃ out, (isBlank front = true → isBlank out = true) ∧
      ∀ rest, dropBlankLines (front ++ c :: rest) = out ++ c :: keepLine rest := by
  induction front using lines_induction with
  | last x hx => exact ⟨x, id, fun rest => dropBlankLines_word hx hc rest⟩
  | line x more hx ih =>
    obtain ⟨out, hout, hrest⟩ := ih
    by_cases hblank : isBlank x = true
    · refine ⟨out, fun h => hout ?_, fun rest => ?_⟩
      · rw [isBlank_append, isBlank_cons, Bool.and_eq_true, Bool.and_eq_true] at h
        exact h.2.2
      · rw [List.append_assoc, List.cons_append, dropBlankLines_newline hx hblank, hrest]
    · have hword : isBlank x = false := by simpa using hblank
      refine ⟨x ++ '\n' :: out, fun h => ?_, fun rest => ?_⟩
      · rw [isBlank_append, hword] at h
        cases h
      · rw [List.append_assoc, List.cons_append, dropBlankLines_line hx hword, hrest,
          List.append_assoc, List.cons_append]

theorem keepLine_subset (cs : List Char) : keepLine cs ⊆ cs := by
  -- A word in front of the text makes it one whose first line is kept.
  have hword : dropBlankLines ('x' :: cs) = 'x' :: keepLine cs :=
    dropBlankLines_word (x := []) (by simp) (by decide) cs
  have hsublist := dropBlankLines_sublist ('x' :: cs)
  rw [hword, List.cons_sublist_cons] at hsublist
  exact hsublist.subset

theorem trimStart_dropBlankLines (cs : List Char) :
    trimStart (dropBlankLines cs) = dropBlankLines (trimStart cs) := by
  rcases blank_or_word cs with hblank | ⟨left, c, rest, rfl, hleft, hc⟩
  · have hdropped := isBlank_of_subset (dropBlankLines_sublist cs).subset hblank
    rw [trimStart_of_blank hblank, trimStart_of_blank hdropped]
    rfl
  · obtain ⟨out, hout, hrest⟩ := dropBlankLines_append left hc
    have hword : dropBlankLines (c :: rest) = c :: keepLine rest :=
      dropBlankLines_word (x := []) (by simp) hc rest
    rw [hrest, trimStart_append (hout hleft) hc, trimStart_append hleft hc, hword]

theorem trimEnd_dropBlankLines (cs : List Char) :
    trimEnd (dropBlankLines cs) = dropBlankLines (trimEnd cs) := by
  rcases blank_or_last_word cs with hblank | ⟨front, c, right, rfl, hc, hright⟩
  · have hdropped := isBlank_of_subset (dropBlankLines_sublist cs).subset hblank
    rw [trimEnd_of_blank hblank, trimEnd_of_blank hdropped]
    rfl
  · obtain ⟨out, _, hrest⟩ := dropBlankLines_append front hc
    have hkept := isBlank_of_subset (keepLine_subset right) hright
    rw [hrest, trimEnd_append out hc, trimEnd_of_blank hkept, trimEnd_append front hc,
      trimEnd_of_blank hright, hrest]
    rfl

theorem trimChars_dropBlankLines (cs : List Char) :
    trimChars (dropBlankLines cs) = dropBlankLines (trimChars cs) := by
  rw [trimChars, trimStart_dropBlankLines, trimEnd_dropBlankLines, trimChars]

end Lines

section Strings

theorem trim_trim (s : String) : trim (trim s) = trim s := by
  simp [trim, trimChars_idem]

theorem noBlankLines_noBlankLines (s : String) :
    noBlankLines (noBlankLines s) = noBlankLines s := by
  simp [noBlankLines, dropBlankLines_idem]

theorem trim_noBlankLines : Function.Commute trim noBlankLines := fun s => by
  simp [trim, noBlankLines, trimChars_dropBlankLines]

theorem trim_htmlEscape : Function.Commute trim htmlEscape := fun s => by
  simp [trim, htmlEscape, escapeChars_trimChars]

theorem noBlankLines_htmlEscape : Function.Commute noBlankLines htmlEscape := fun s => by
  simp [noBlankLines, htmlEscape, escapeChars_dropBlankLines]

end Strings

end PageFilters.Text
