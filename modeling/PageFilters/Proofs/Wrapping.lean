import PageFilters.Proofs.Cutting
import PageFilters.Proofs.PipeLists

namespace PageFilters.Text

/-- The maximal runs of lines that are not blank, in their order: a line that ends one is blank, and
so is a line between two of them. -/
inductive Runs : List (List Char) → List (List (List Char)) → Prop
  | nil : Runs [] []
  | blank {l : List Char} {ls : List (List Char)} {ps : List (List (List Char))}
      (hl : isBlank l = true) (h : Runs ls ps) : Runs (l :: ls) ps
  | last {p : List (List Char)} (hne : p ≠ []) (hp : ∀ l ∈ p, isBlank l = false) : Runs p [p]
  | run {p : List (List Char)} {l : List Char} {ls : List (List Char)}
      {ps : List (List (List Char))} (hne : p ≠ []) (hp : ∀ l ∈ p, isBlank l = false)
      (hl : isBlank l = true) (h : Runs ls ps) : Runs (p ++ l :: ls) (p :: ps)

/-- The second text is the first one with further blank lines: at the start, at the end, or above or
below a blank line. -/
inductive Spaced : List Char → List Char → Prop
  | start {x cs : List Char} (hx : isBlank x = true) (ends : Terminated x) : Spaced cs (x ++ cs)
  | finish {x cs : List Char} (hx : isBlank x = true)
      (ends : Terminated cs ∨ x.head? = some '\n') : Spaced cs (cs ++ x)
  | above {x front line back : List Char} (hx : isBlank x = true) (ends : Terminated x)
      (hfront : Terminated front) (hline : isBlank line = true) (hne : line ≠ [])
      (hends : line.getLast? = some '\n' ∨ back = []) :
      Spaced (front ++ line ++ back) (front ++ x ++ line ++ back)
  | below {x front line back : List Char} (hx : isBlank x = true) (ends : Terminated x)
      (hfront : Terminated front) (hline : isBlank line = true)
      (hends : line.getLast? = some '\n') :
      Spaced (front ++ line ++ back) (front ++ line ++ x ++ back)

/-- The text with a carriage return in front of each line feed. -/
def withReturns (cs : List Char) : List Char :=
  cs.flatMap fun c => if c = '\n' then ['\r', '\n'] else [c]

section Runs

theorem paragraphs_split {b : List Char} (hb : isBlank b = true) (xs ys : List (List Char)) :
    paragraphs (xs ++ b :: ys) = paragraphs xs ++ paragraphs ys := by
  simp only [paragraphs, segments_eq_splitOnP]
  rw [List.splitOnP_append_cons _ _ hb, List.filter_append]

theorem paragraphs_cons_blank {b : List Char} (hb : isBlank b = true) (ls : List (List Char)) :
    paragraphs (b :: ls) = paragraphs ls :=
  paragraphs_split hb [] ls

theorem paragraphs_of_words {p : List (List Char)} (hne : p ≠ [])
    (hp : ∀ l ∈ p, isBlank l = false) : paragraphs p = [p] := by
  rw [paragraphs, segments_eq_splitOnP, List.splitOnP_eq_singleton hp]
  simp [hne]

/-- Blank lines part what stands in front of them from what stands behind. -/
theorem paragraphs_apart {bs : List (List Char)} (hne : bs ≠ []) (hb : ∀ b ∈ bs, isBlank b = true)
    (xs ys : List (List Char)) :
    paragraphs (xs ++ (bs ++ ys)) = paragraphs xs ++ paragraphs ys := by
  induction bs generalizing xs with
  | nil => exact absurd rfl hne
  | cons b bs ih =>
    obtain ⟨hhead, htail⟩ := List.forall_mem_cons.mp hb
    rw [List.cons_append, paragraphs_split hhead]
    by_cases hnil : bs = []
    · rw [hnil, List.nil_append]
    · exact congrArg (paragraphs xs ++ ·) (ih hnil htail [])

theorem paragraphs_append_blank {bs : List (List Char)} (hb : ∀ b ∈ bs, isBlank b = true)
    (xs : List (List Char)) : paragraphs (xs ++ bs) = paragraphs xs := by
  by_cases hnil : bs = []
  · rw [hnil, List.append_nil]
  · have hapart := paragraphs_apart hnil hb xs []
    rw [List.append_nil] at hapart
    exact hapart.trans (List.append_nil _)

theorem paragraphs_blank_append {bs : List (List Char)} (hb : ∀ b ∈ bs, isBlank b = true)
    (ys : List (List Char)) : paragraphs (bs ++ ys) = paragraphs ys := by
  by_cases hnil : bs = []
  · rw [hnil, List.nil_append]
  · exact paragraphs_apart hnil hb [] ys

theorem runs_iff {ls : List (List Char)} {ps : List (List (List Char))} :
    Runs ls ps ↔ ps = paragraphs ls := by
  constructor
  · intro h
    induction h with
    | nil => rfl
    | blank hl _ ih => rw [paragraphs_cons_blank hl, ih]
    | last hne hp => exact (paragraphs_of_words hne hp).symm
    | run hne hp hl _ ih => rw [paragraphs_split hl, paragraphs_of_words hne hp, ih]; rfl
  · rintro rfl
    -- The induction is on the lines behind the part of a run that has been read.
    have hread : ∀ p, (∀ l ∈ p, isBlank l = false) → Runs (p ++ ls) (paragraphs (p ++ ls)) := by
      induction ls with
      | nil =>
        intro p hp
        rw [List.append_nil]
        by_cases hne : p = []
        · subst hne
          exact .nil
        · rw [paragraphs_of_words hne hp]
          exact .last hne hp
      | cons l ls ih =>
        intro p hp
        by_cases hl : isBlank l = true
        · have hrest := ih [] (by simp)
          rw [paragraphs_split hl]
          by_cases hne : p = []
          · subst hne
            exact .blank hl hrest
          · rw [paragraphs_of_words hne hp]
            exact .run hne hp hl hrest
        · have hword : isBlank l = false := by simpa using hl
          have hmore : ∀ k ∈ p ++ [l], isBlank k = false :=
            List.forall_mem_append.mpr ⟨hp, List.forall_mem_singleton.mpr hword⟩
          rw [List.append_cons]
          exact ih (p ++ [l]) hmore
    exact hread [] (by simp)

/-- No line that is not blank is lost, doubled or moved. -/
theorem Runs.flatten {ls : List (List Char)} {ps : List (List (List Char))} (h : Runs ls ps) :
    ps.flatten = ls.filter (!isBlank ·) := by
  have hwords : ∀ p : List (List Char), (∀ l ∈ p, isBlank l = false) →
      p.filter (!isBlank ·) = p := fun p hp => List.filter_eq_self.mpr fun l hl => by simp [hp l hl]
  induction h with
  | nil => rfl
  | blank hl _ ih => simp [hl, ih]
  | last _ hp => simp [hwords _ hp]
  | run _ hp hl _ ih => simp [hwords _ hp, hl, ih]

theorem paragraphs_eq_nil_iff {ls : List (List Char)} :
    paragraphs ls = [] ↔ ∀ l ∈ ls, isBlank l = true := by
  constructor
  · intro h
    have hflatten := (runs_iff.mpr h.symm).flatten
    simpa using hflatten.symm
  · exact fun h => paragraphs_append_blank h []

theorem htmlPara_eq_empty_iff (s : String) :
    htmlPara s = "" ↔ paragraphs (lines s.toList) = [] := by
  rw [htmlPara, ← String.toList_inj, String.toList_ofList, paragraphed]
  cases paragraphs (lines s.toList) with
  | nil => simp
  | cons p ps => simp [intercalate_newline_cons, tagged]

end Runs

section Spacing

theorem lines_ne_nil {x : List Char} (hx : x ≠ []) : lines x ≠ [] := by
  intro h
  have hpieces := pieces_flatten x
  rw [List.map_eq_nil_iff.mp h] at hpieces
  exact hx hpieces.symm

/-- Blank lines behind the last line, which holds no carriage return that the first line feed could
take with it. -/
theorem lines_finish {cs x : List Char} (hr : '\r' ∉ cs) (hx : isBlank x = true)
    (ends : Terminated cs ∨ x.head? = some '\n') :
    ∃ bs, (∀ b ∈ bs, isBlank b = true) ∧ lines (cs ++ x) = lines cs ++ bs := by
  rcases ends with ends | hhead
  · exact ⟨lines x, blank_of_mem_lines hx, lines_terminated ends x⟩
  obtain ⟨y, rfl⟩ : ∃ y, x = '\n' :: y := List.head?_eq_some_iff.mp hhead
  have hy := blank_of_mem_lines (isBlank_of_subset (List.subset_cons_self _ _) hx)
  induction cs using lines_induction with
  | last z hz =>
    by_cases hnil : z = []
    · subst hnil
      exact ⟨lines ('\n' :: y), blank_of_mem_lines hx, rfl⟩
    · have hlast : z.getLast? ≠ some '\r' := fun h => hr (List.mem_of_getLast? h)
      refine ⟨lines y, hy, ?_⟩
      rw [lines_newline hz, stripEnding_feed hlast, lines_of_not_mem hz hnil]
      rfl
  | line z rest hz ih =>
    obtain ⟨bs, hbs, hlines⟩ := ih (fun h => hr (by simp [h]))
    refine ⟨bs, hbs, ?_⟩
    rw [List.append_assoc, List.cons_append, lines_newline hz, lines_newline hz, hlines]
    rfl

/-- A blank part between two others, all of them whole lines. -/
theorem paragraphs_around {front line back : List Char} (hfront : Terminated front)
    (hline : isBlank line = true) (hne : line ≠ []) (hends : Terminated line ∨ back = []) :
    paragraphs (lines (front ++ line ++ back)) =
      paragraphs (lines front) ++ paragraphs (lines back) := by
  have hback : lines (line ++ back) = lines line ++ lines back := by
    rcases hends with hends | rfl
    · exact lines_terminated hends back
    · simp [lines, pieces]
  rw [List.append_assoc, lines_terminated hfront, hback]
  exact paragraphs_apart (lines_ne_nil hne) (blank_of_mem_lines hline) _ _

theorem Spaced.paragraphs_eq {cs ds : List Char} (h : Spaced cs ds) (hr : '\r' ∉ cs) :
    paragraphs (lines ds) = paragraphs (lines cs) := by
  cases h with
  | start hx ends =>
    rw [lines_terminated ends]
    exact paragraphs_blank_append (blank_of_mem_lines hx) _
  | finish hx ends =>
    obtain ⟨bs, hbs, hlines⟩ := lines_finish hr hx ends
    rw [hlines]
    exact paragraphs_append_blank hbs _
  | @above x front line back hx ends hfront hline hne hends =>
    have hboth : isBlank (x ++ line) = true := by rw [isBlank_append, hx, hline]; rfl
    have hlast : Terminated (x ++ line) ∨ back = [] :=
      hends.imp_left fun h => .inr (by rw [List.getLast?_append_of_ne_nil _ hne, h])
    rw [List.append_assoc front, paragraphs_around hfront hboth (by simp [hne]) hlast,
      paragraphs_around hfront hline hne (hends.imp_left .inr)]
  | @below x front line back hx ends hfront hline hends =>
    have hne : line ≠ [] := by
      rintro rfl
      cases hends
    have hboth : isBlank (line ++ x) = true := by rw [isBlank_append, hx, hline]; rfl
    have hlast : Terminated (line ++ x) := by
      rcases ends with rfl | hx
      · exact .inr (by rwa [List.append_nil])
      · exact .inr (by rw [List.getLast?_append, hx]; rfl)
    rw [List.append_assoc front, paragraphs_around hfront hboth (by simp [hne]) (.inl hlast),
      paragraphs_around hfront hline hne (.inl (.inr hends))]

end Spacing

section Returns

theorem withReturns_of_not_mem {x : List Char} (hx : '\n' ∉ x) : withReturns x = x := by
  induction x with
  | nil => rfl
  | cons c x ih =>
    have hc : c ≠ '\n' := fun e => hx (by simp [e])
    rw [withReturns, List.flatMap_cons, if_neg hc]
    exact congrArg (c :: ·) (ih fun h => hx (List.mem_cons_of_mem c h))

theorem withReturns_newline {x : List Char} (hx : '\n' ∉ x) (cs : List Char) :
    withReturns (x ++ '\n' :: cs) = (x ++ ['\r']) ++ '\n' :: withReturns cs := by
  have happ : withReturns (x ++ '\n' :: cs) = withReturns x ++ withReturns ('\n' :: cs) :=
    List.flatMap_append
  rw [happ, withReturns_of_not_mem hx, List.append_assoc]
  rfl

theorem lines_withReturns {cs : List Char} (hr : '\r' ∉ cs) :
    lines (withReturns cs) = lines cs := by
  induction cs using lines_induction with
  | last x hx => rw [withReturns_of_not_mem hx]
  | line x rest hx ih =>
    have hback : '\n' ∉ x ++ ['\r'] := by simp [hx]
    have hlast : x.getLast? ≠ some '\r' := fun h =>
      hr (List.mem_append_left _ (List.mem_of_getLast? h))
    rw [withReturns_newline hx, lines_newline hback, stripEnding_returned, lines_newline hx,
      stripEnding_feed hlast, ih fun h => hr (by simp [h])]

end Returns

/-- The paragraphs are the maximal runs of lines that are not blank, each between tags and with one
empty line between two of them. Blank lines more at the ends or at a blank line do not change them,
and neither do carriage returns in front of all line feeds. -/
theorem htmlPara_wraps (s : String) :
    ∃ ls ps, (∀ ks, Lined s.toList ks ↔ ks = ls) ∧ (∀ qs, Runs ls qs ↔ qs = ps) ∧
      (htmlPara s).toList = ['\n'].intercalate (ps.map fun p =>
        "<p>\n".toList ++ ['\n'].intercalate p ++ "\n</p>\n".toList) ∧
      ps.flatten = ls.filter (!isBlank ·) ∧
      (htmlPara s = "" ↔ ∀ l ∈ ls, isBlank l = true) ∧
      ('\r' ∉ s.toList →
        (∀ t : String, Spaced s.toList t.toList → htmlPara t = htmlPara s) ∧
        htmlPara (String.ofList (withReturns s.toList)) = htmlPara s) := by
  refine ⟨lines s.toList, paragraphs (lines s.toList), fun _ => lined_iff, fun _ => runs_iff, ?_,
    (runs_iff.mpr rfl).flatten, ?_, fun hr => ⟨fun t h => ?_, ?_⟩⟩
  · rw [htmlPara, String.toList_ofList]
    rfl
  · rw [htmlPara_eq_empty_iff, paragraphs_eq_nil_iff]
  · rw [htmlPara, htmlPara, paragraphed, paragraphed, h.paragraphs_eq hr]
  · rw [htmlPara, htmlPara, String.toList_ofList, paragraphed, paragraphed, lines_withReturns hr]

/-- Blank lines above a blank line, and carriage returns. -/
theorem htmlPara_wraps_spaced :
    '\r' ∉ "a\nb\n \nc".toList ∧ Spaced "a\nb\n \nc".toList "a\nb\n\t\n\n \nc".toList ∧
      htmlPara "a\nb\n\t\n\n \nc" = htmlPara "a\nb\n \nc" ∧
      htmlPara "a\r\nb\r\n \r\nc" = "<p>\na\nb\n</p>\n\n<p>\nc\n</p>\n" := by
  have hreturn : '\r' ∉ "a\nb\n \nc".toList := by decide
  have hspaced : Spaced "a\nb\n \nc".toList "a\nb\n\t\n\n \nc".toList :=
    @Spaced.above "\t\n\n".toList "a\nb\n".toList " \n".toList "c".toList (by decide)
      (.inr (by decide)) (.inr (by decide)) (by decide) (by decide) (.inl (by decide))
  obtain ⟨_, _, _, _, _, _, _, hkeeps⟩ := htmlPara_wraps "a\nb\n \nc"
  refine ⟨hreturn, hspaced, (hkeeps hreturn).1 _ hspaced, ?_⟩
  have htext : String.ofList (withReturns "a\nb\n \nc".toList) = "a\r\nb\r\n \r\nc" := by
    decide +kernel
  rw [← htext, (hkeeps hreturn).2]
  decide +kernel

end PageFilters.Text
