import PageFilters.Proofs.Scanners

namespace PageFilters

namespace Text

def opened : List Char := "<p>\n".toList

def closed : List Char := "\n</p>\n".toList

/-- Paragraphs of the lines, between which and in front of which, unless they are the first, an
empty line goes. -/
def tagLines (first : Bool) (ls : List (List Char)) : List Char :=
  if first then ['\n'].intercalate ((paragraphs ls).map tagged)
  else (paragraphs ls).flatMap fun p => '\n' :: tagged p

/-- Lines behind one in a paragraph. -/
def tagRest (ls : List (List Char)) : List Char :=
  match segments isBlank ls with
  | [] => closed
  | p :: ps =>
    p.flatMap ('\n' :: ·) ++ closed ++
      (ps.filter fun q => !q.isEmpty).flatMap fun q => '\n' :: tagged q

theorem intercalate_newline_cons (l : List Char) (ls : List (List Char)) :
    ['\n'].intercalate (l :: ls) = l ++ ls.flatMap ('\n' :: ·) := by
  induction ls generalizing l with
  | nil => simp [List.intercalate]
  | cons k ls ih => simp [List.intercalate_cons_cons, ih]

theorem segments_ne_nil {α : Type} (sep : α → Bool) (l : List α) : segments sep l ≠ [] := by
  cases l with
  | nil => simp [segments]
  | cons a l =>
    rw [segments]
    split
    next => simp
    next =>
      split
      next => simp
      next => simp

theorem tagLines_nil (first : Bool) : tagLines first [] = [] := by
  cases first <;> rfl

theorem tagLines_blank (first : Bool) {l : List Char} (h : isBlank l = true)
    (ls : List (List Char)) : tagLines first (l :: ls) = tagLines first ls := by
  simp [tagLines, paragraphs, segments, h]

theorem tagLines_cons (first : Bool) {l : List Char} (h : isBlank l = false)
    (ls : List (List Char)) :
    tagLines first (l :: ls) = (if first then [] else ['\n']) ++ opened ++ l ++ tagRest ls := by
  rw [tagLines, tagRest, paragraphs, segments, h]
  cases hs : segments isBlank ls with
  | nil => exact absurd hs (segments_ne_nil _ _)
  | cons p ps =>
    have htagged : tagged (l :: p) = opened ++ (l ++ p.flatMap ('\n' :: ·)) ++ closed := by
      rw [← intercalate_newline_cons]
      rfl
    cases first with
    | true => simp [intercalate_newline_cons, htagged, List.flatMap_map]
    | false => simp [htagged]

theorem tagRest_nil : tagRest [] = closed := rfl

theorem tagRest_blank {l : List Char} (h : isBlank l = true) (ls : List (List Char)) :
    tagRest (l :: ls) = closed ++ tagLines false ls := by
  simp [tagRest, tagLines, paragraphs, segments, h]

theorem tagRest_cons {l : List Char} (h : isBlank l = false) (ls : List (List Char)) :
    tagRest (l :: ls) = '\n' :: l ++ tagRest ls := by
  rw [tagRest, tagRest, segments, h]
  cases hs : segments isBlank ls with
  | nil => exact absurd hs (segments_ne_nil _ _)
  | cons p ps => simp

/-- The text up to the end of a line in a paragraph, and the lines behind it. -/
def tagInner (cs : List Char) : List Char :=
  match pieces cs with
  | [] => closed
  | p :: ps => stripEnding p ++ tagRest (ps.map stripEnding)

theorem tagInner_newline (cs : List Char) : tagInner ('\n' :: cs) = tagRest (lines cs) := by
  simp [tagInner, pieces, stripEnding, lines]

theorem tagInner_return_newline (cs : List Char) :
    tagInner ('\r' :: '\n' :: cs) = tagRest (lines cs) := by
  simp [tagInner, pieces, stripEnding, lines]

theorem tagInner_cons {c : Char} (hn : c ≠ '\n') {cs : List Char}
    (hr : c = '\r' → cs.head? ≠ some '\n') : tagInner (c :: cs) = c :: tagInner cs := by
  rw [tagInner, tagInner, pieces_cons hn]
  cases hp : pieces cs with
  | nil =>
    simp only
    rw [stripEnding_cons (fun _ => hn) (by simp)]
    rfl
  | cons p ps =>
    have hhead : c = '\r' → p ≠ ['\n'] := by
      intro hc he
      apply hr hc
      rw [← pieces_flatten cs, hp, he]
      rfl
    simp only
    rw [stripEnding_cons (fun e => absurd e (pieces_ne_nil hp)) hhead]
    rfl

theorem lines_newline {x : List Char} (hx : '\n' ∉ x) (cs : List Char) :
    lines (x ++ '\n' :: cs) = stripEnding (x ++ ['\n']) :: lines cs := by
  rw [lines, pieces_newline hx]
  rfl

theorem isBlank_line {x : List Char} (h : isBlank x = true) :
    isBlank (stripEnding (x ++ ['\n'])) = true := by
  rw [isBlank_stripEnding, isBlank_append, h]
  decide

theorem lines_word {x : List Char} (hx : '\n' ∉ x) {c : Char} (hc : isSpace c = false)
    (cs : List Char) :
    ∃ l ls, lines (x ++ c :: cs) = (x ++ c :: l) :: ls ∧ l ++ tagRest ls = tagInner cs := by
  have hn : c ≠ '\n' := by
    rintro rfl
    exact absurd hc (by decide)
  have hr : c ≠ '\r' := by
    rintro rfl
    exact absurd hc (by decide)
  have hx' : '\n' ∉ x ++ [c] := by simp [hx, Ne.symm hn]
  have happ : x ++ c :: cs = (x ++ [c]) ++ cs := by simp
  rw [lines, happ, pieces_append hx' (by simp), tagInner]
  cases pieces cs with
  | nil =>
    refine ⟨[], [], ?_, rfl⟩
    have hs := stripEnding_append x (p := []) hn hr
    simpa [stripEnding_nil] using hs
  | cons p ps =>
    refine ⟨stripEnding p, ps.map stripEnding, ?_, rfl⟩
    have hs := stripEnding_append x (p := p) hn hr
    simpa using hs

theorem tagLines_word (first : Bool) {x : List Char} (hx : '\n' ∉ x) {c : Char}
    (hc : isSpace c = false) (cs : List Char) :
    tagLines first (lines (x ++ c :: cs)) =
      (if first then [] else ['\n']) ++ opened ++ x ++ c :: tagInner cs := by
  obtain ⟨l, ls, hl, hrest⟩ := lines_word hx hc cs
  rw [hl, tagLines_cons first (isBlank_of_not_isSpace x hc l), ← hrest]
  simp

theorem tagRest_word {x : List Char} (hx : '\n' ∉ x) {c : Char} (hc : isSpace c = false)
    (cs : List Char) : tagRest (lines (x ++ c :: cs)) = '\n' :: x ++ c :: tagInner cs := by
  obtain ⟨l, ls, hl, hrest⟩ := lines_word hx hc cs
  rw [hl, tagRest_cons (isBlank_of_not_isSpace x hc l), ← hrest]
  simp

end Text

/-- Where in its paragraphs a text is read. -/
inductive Stage where
  /-- On a line outside that is blank so far. -/
  | gap (first : Bool) (blank : List Char)
  /-- On a line behind one in a paragraph that is blank so far. -/
  | pause (blank : List Char)
  | inner
  /-- Behind a carriage return. -/
  | ret

namespace Scanner

/-- Puts tags around paragraphs. Holds back a line that is blank so far, and a carriage return. -/
def tagging : Scanner Stage where
  start := .gap true []
  home := .inner
  held
    | .gap first blank => (if first then [] else ['\n']) ++ Text.opened ++ blank
    | .pause blank => '\n' :: blank
    | .inner => []
    | .ret => ['\r']
  step
    | .gap first blank, c =>
      if c = '\n' then ([], .gap first [])
      else if Text.isSpace c then ([], .gap first (blank ++ [c]))
      else ((if first then [] else ['\n']) ++ Text.opened ++ blank ++ [c], .inner)
    | .pause blank, c =>
      if c = '\n' then (Text.closed, .gap false [])
      else if Text.isSpace c then ([], .pause (blank ++ [c]))
      else ('\n' :: blank ++ [c], .inner)
    | .inner, c =>
      if c = '\n' then ([], .pause []) else if c = '\r' then ([], .ret) else ([c], .inner)
    | .ret, c =>
      if c = '\n' then ([], .pause [])
      else if c = '\r' then (['\r'], .ret)
      else (['\r', c], .inner)
  finish
    | .gap _ _ => []
    | .pause _ => Text.closed
    | .inner => Text.closed
    | .ret => '\r' :: Text.closed
  held_start := by decide
  held_home := rfl
  step_solid := by
    intro m c h
    cases m <;> simp [h.1, h.ne_newline, h.ne_return]
  step_inner := by
    intro m c hm hc
    have hclosed : Ordinary Text.closed := by decide
    cases m with
    | gap first blank =>
      have hgap := ordinary_append.mp hm
      dsimp only
      split
      next => exact ⟨ordinary_nil, ordinary_append.mpr ⟨hgap.1, ordinary_nil⟩⟩
      next =>
        split
        next =>
          exact ⟨ordinary_nil, ordinary_append.mpr ⟨hgap.1, ordinary_append.mpr ⟨hgap.2, hc⟩⟩⟩
        next => exact ⟨ordinary_append.mpr ⟨hm, hc⟩, ordinary_nil⟩
    | pause blank =>
      dsimp only
      split
      next => exact ⟨hclosed, by decide⟩
      next =>
        split
        next => exact ⟨ordinary_nil, ordinary_append.mpr ⟨hm, hc⟩⟩
        next => exact ⟨ordinary_append.mpr ⟨hm, hc⟩, ordinary_nil⟩
    | inner =>
      dsimp only
      split
      next => exact ⟨ordinary_nil, by decide⟩
      next =>
        split
        next => exact ⟨ordinary_nil, by decide⟩
        next => exact ⟨hc, ordinary_nil⟩
    | ret =>
      dsimp only
      split
      next => exact ⟨ordinary_nil, by decide⟩
      next =>
        split
        next => exact ⟨by decide, by decide⟩
        next => exact ⟨ordinary_append.mpr ⟨hm, hc⟩, ordinary_nil⟩
  finish_ordinary := by
    intro m _
    have hclosed : Ordinary Text.closed := by decide
    cases m with
    | gap first blank => exact ordinary_nil
    | pause blank => exact hclosed
    | inner => exact hclosed
    | ret => exact ordinary_append.mpr ⟨(by decide : Ordinary ['\r']), hclosed⟩

theorem tagging_run_nil :
    (∀ first blank, Text.isBlank blank = true → '\n' ∉ blank →
      tagging.run (.gap first blank) [] = Text.tagLines first (Text.lines blank)) ∧
    (∀ blank, Text.isBlank blank = true → '\n' ∉ blank →
      tagging.run (.pause blank) [] = Text.tagRest (Text.lines blank)) := by
  have hline : ∀ blank, Text.isBlank blank = true → '\n' ∉ blank →
      Text.lines blank = [] ∨ Text.lines blank = [Text.stripEnding blank] := by
    intro blank _ hn
    by_cases hnil : blank = []
    · exact Or.inl (by rw [hnil]; rfl)
    · exact Or.inr (by rw [Text.lines, Text.pieces_of_not_mem hn hnil]; rfl)
  constructor
  · intro first blank hb hn
    rcases hline blank hb hn with h | h
    · rw [h, Text.tagLines_nil]
      rfl
    · rw [h, Text.tagLines_blank first ((Text.isBlank_stripEnding _).trans hb), Text.tagLines_nil]
      rfl
  · intro blank hb hn
    rcases hline blank hb hn with h | h
    · rw [h, Text.tagRest_nil]
      rfl
    · rw [h, Text.tagRest_blank ((Text.isBlank_stripEnding _).trans hb), Text.tagLines_nil,
        List.append_nil]
      rfl

theorem tagging_run_all (cs : List Char) :
    (∀ first blank, Text.isBlank blank = true → '\n' ∉ blank →
      tagging.run (.gap first blank) cs = Text.tagLines first (Text.lines (blank ++ cs))) ∧
    (∀ blank, Text.isBlank blank = true → '\n' ∉ blank →
      tagging.run (.pause blank) cs = Text.tagRest (Text.lines (blank ++ cs))) ∧
    tagging.run .inner cs = Text.tagInner cs ∧
    tagging.run .ret cs = Text.tagInner ('\r' :: cs) := by
  induction cs with
  | nil =>
    simp only [List.append_nil]
    exact ⟨tagging_run_nil.1, tagging_run_nil.2, rfl, rfl⟩
  | cons c cs ih =>
    obtain ⟨gap, pause, inner, ret⟩ := ih
    by_cases hn : c = '\n'
    · subst hn
      refine ⟨?_, ?_, ?_, ?_⟩
      · intro first blank hb hx
        have hstep : tagging.step (.gap first blank) '\n' = ([], .gap first []) := rfl
        rw [run_cons, hstep, gap first [] rfl (by simp), Text.lines_newline hx,
          Text.tagLines_blank first (Text.isBlank_line hb)]
        rfl
      · intro blank hb hx
        have hstep : tagging.step (.pause blank) '\n' = (Text.closed, .gap false []) := rfl
        rw [run_cons, hstep, gap false [] rfl (by simp), Text.lines_newline hx,
          Text.tagRest_blank (Text.isBlank_line hb)]
        rfl
      · have hstep : tagging.step .inner '\n' = ([], .pause []) := rfl
        rw [run_cons, hstep, pause [] rfl (by simp), Text.tagInner_newline]
        rfl
      · have hstep : tagging.step .ret '\n' = ([], .pause []) := rfl
        rw [run_cons, hstep, pause [] rfl (by simp), Text.tagInner_return_newline]
        rfl
    have hret : Text.tagInner ('\r' :: c :: cs) = '\r' :: Text.tagInner (c :: cs) :=
      Text.tagInner_cons (by decide) fun _ => by simpa using hn
    refine ⟨?_, ?_, ?_, ?_⟩
    · intro first blank hb hx
      by_cases hc : Text.isSpace c = true
      · have hstep : tagging.step (.gap first blank) c = ([], .gap first (blank ++ [c])) := by
          simp [tagging, hn, hc]
        have hb' : Text.isBlank (blank ++ [c]) = true := by
          rw [Text.isBlank_append, hb]
          simpa [Text.isBlank] using hc
        have hx' : '\n' ∉ blank ++ [c] := by simp [hx, Ne.symm hn]
        rw [run_cons, hstep, gap first _ hb' hx']
        simp
      · have hfalse : Text.isSpace c = false := by simpa using hc
        have hstep : tagging.step (.gap first blank) c =
            ((if first then [] else ['\n']) ++ Text.opened ++ blank ++ [c], .inner) := by
          simp [tagging, hn, hfalse]
        rw [run_cons, hstep, inner, Text.tagLines_word first hx hfalse]
        simp
    · intro blank hb hx
      by_cases hc : Text.isSpace c = true
      · have hstep : tagging.step (.pause blank) c = ([], .pause (blank ++ [c])) := by
          simp [tagging, hn, hc]
        have hb' : Text.isBlank (blank ++ [c]) = true := by
          rw [Text.isBlank_append, hb]
          simpa [Text.isBlank] using hc
        have hx' : '\n' ∉ blank ++ [c] := by simp [hx, Ne.symm hn]
        rw [run_cons, hstep, pause _ hb' hx']
        simp
      · have hfalse : Text.isSpace c = false := by simpa using hc
        have hstep : tagging.step (.pause blank) c = ('\n' :: blank ++ [c], .inner) := by
          simp [tagging, hn, hfalse]
        rw [run_cons, hstep, inner, Text.tagRest_word hx hfalse]
        simp
    · by_cases hr : c = '\r'
      · subst hr
        have hstep : tagging.step .inner '\r' = ([], .ret) := rfl
        rw [run_cons, hstep, ret]
        rfl
      · have hstep : tagging.step .inner c = ([c], .inner) := by simp [tagging, hn, hr]
        rw [run_cons, hstep, inner, Text.tagInner_cons hn (fun e => absurd e hr)]
        rfl
    · by_cases hr : c = '\r'
      · subst hr
        have hstep : tagging.step .ret '\r' = (['\r'], .ret) := rfl
        rw [run_cons, hstep, ret, hret]
        rfl
      · have hstep : tagging.step .ret c = (['\r', c], .inner) := by simp [tagging, hn, hr]
        rw [run_cons, hstep, inner, hret, Text.tagInner_cons hn (fun e => absurd e hr)]
        rfl

theorem tagging_run (cs : List Char) : tagging.run (.gap true []) cs = Text.paragraphed cs :=
  (tagging_run_all cs).1 true [] rfl (by simp)

end Scanner

end PageFilters
