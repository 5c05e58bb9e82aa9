import PageFilters.Proofs.Lines
import PageFilters.Proofs.Scanner

namespace PageFilters

theorem Text.Solid.ne_newline {c : Char} (h : Solid c) : c ≠ '\n' := by
  rintro rfl
  exact absurd h.1 (by decide)

theorem Text.Solid.ne_return {c : Char} (h : Solid c) : c ≠ '\r' := by
  rintro rfl
  exact absurd h.1 (by decide)

namespace Scanner

/-- Writes every character on its own. -/
def letters : Scanner Unit where
  start := ()
  home := ()
  held _ := []
  step _ c := (Text.entity c, ())
  finish _ := []
  held_start := ordinary_nil
  held_home := rfl
  step_solid := fun _ _ h => Prod.ext h.2 rfl
  step_inner := by
    intro _ c _ hc
    refine ⟨?_, ordinary_nil⟩
    unfold Text.entity
    split_ifs
    all_goals first
      | exact hc
      | decide
  finish_ordinary := fun _ _ => ordinary_nil

theorem letters_run (cs : List Char) : letters.run () cs = Text.escapeChars cs := by
  induction cs with
  | nil => rfl
  | cons c cs ih =>
    rw [run_cons]
    exact congrArg (Text.entity c ++ ·) ih

/-- Holds back white space that may be the last. In front of the first word all of it goes. -/
def trimming : Scanner (Option (List Char)) where
  start := none
  home := some []
  held := (·.getD [])
  step
    | none, c => if Text.isSpace c then ([], none) else ([c], some [])
    | some blank, c =>
      if Text.isSpace c then ([], some (blank ++ [c])) else (blank ++ [c], some [])
  finish _ := []
  held_start := ordinary_nil
  held_home := rfl
  step_solid := by
    intro m c h
    cases m <;> simp [h.1]
  step_inner := by
    intro m c hm hc
    cases m with
    | none =>
      dsimp only
      split
      next => exact ⟨ordinary_nil, ordinary_nil⟩
      next => exact ⟨hc, ordinary_nil⟩
    | some blank =>
      dsimp only
      split
      next => exact ⟨ordinary_nil, ordinary_append.mpr ⟨hm, hc⟩⟩
      next => exact ⟨ordinary_append.mpr ⟨hm, hc⟩, ordinary_nil⟩
  finish_ordinary := fun _ _ => ordinary_nil

theorem trimming_run_some {blank : List Char} (h : Text.isBlank blank = true) (cs : List Char) :
    trimming.run (some blank) cs = Text.trimEnd (blank ++ cs) := by
  induction cs generalizing blank with
  | nil =>
    rw [List.append_nil, Text.trimEnd_of_blank h]
    rfl
  | cons c cs ih =>
    rw [run_cons]
    by_cases hc : Text.isSpace c = true
    · have hblank : Text.isBlank (blank ++ [c]) = true := by
        rw [Text.isBlank_append, h]
        simpa [Text.isBlank] using hc
      have hstep : trimming.step (some blank) c = ([], some (blank ++ [c])) := if_pos hc
      rw [hstep, ih hblank]
      simp
    · have hstep : trimming.step (some blank) c = (blank ++ [c], some []) := if_neg hc
      rw [hstep, ih rfl, Text.trimEnd_append blank (by simpa using hc)]
      simp

theorem trimming_run (cs : List Char) : trimming.run none cs = Text.trimChars cs := by
  induction cs with
  | nil => rfl
  | cons c cs ih =>
    rw [run_cons]
    by_cases hc : Text.isSpace c = true
    · have hstep : trimming.step none c = ([], none) := if_pos hc
      rw [hstep, ih, Text.trimChars, Text.trimChars, Text.trimStart, Text.trimStart,
        List.dropWhile_cons, if_pos hc]
      rfl
    · have hstep : trimming.step none c = ([c], some []) := if_neg hc
      have hfalse : Text.isSpace c = false := by simpa using hc
      rw [hstep, trimming_run_some rfl, Text.trimChars, Text.trimStart, List.dropWhile_cons,
        if_neg hc]
      exact (Text.trimEnd_append [] hfalse cs).symm

/-- Holds back a line as long as it is blank. -/
def filling : Scanner (Option (List Char)) where
  start := some []
  home := none
  held := (·.getD [])
  step
    | none, c => ([c], if c = '\n' then some [] else none)
    | some blank, c =>
      if c = '\n' then ([], some [])
      else if Text.isSpace c then ([], some (blank ++ [c]))
      else (blank ++ [c], none)
  finish := (·.getD [])
  held_start := ordinary_nil
  held_home := rfl
  step_solid := by
    intro m c h
    cases m <;> simp [h.1, h.ne_newline]
  step_inner := by
    intro m c hm hc
    cases m with
    | none =>
      refine ⟨hc, ?_⟩
      dsimp only
      split
      next => exact ordinary_nil
      next => exact ordinary_nil
    | some blank =>
      dsimp only
      split
      next => exact ⟨ordinary_nil, ordinary_nil⟩
      next =>
        split
        next => exact ⟨ordinary_nil, ordinary_append.mpr ⟨hm, hc⟩⟩
        next => exact ⟨ordinary_append.mpr ⟨hm, hc⟩, ordinary_nil⟩
  finish_ordinary := fun _ h => h

theorem filling_run_both (cs : List Char) :
    filling.run none cs = Text.keepLine cs ∧
    ∀ blank, Text.isBlank blank = true → '\n' ∉ blank →
      filling.run (some blank) cs = Text.dropBlankLines (blank ++ cs) := by
  induction cs with
  | nil =>
    refine ⟨rfl, ?_⟩
    intro blank _ hn
    rw [List.append_nil, Text.dropBlankLines_blank hn]
    rfl
  | cons c cs ih =>
    obtain ⟨line, gap⟩ := ih
    by_cases hnl : c = '\n'
    · subst hnl
      have hgap := gap [] rfl (by simp)
      constructor
      · have hstep : filling.step none '\n' = (['\n'], some []) := rfl
        rw [run_cons, hstep, hgap, Text.keepLine_newline]
        rfl
      · intro blank hb hn
        have hstep : filling.step (some blank) '\n' = ([], some []) := rfl
        rw [run_cons, hstep, hgap, Text.dropBlankLines_newline hn hb]
        rfl
    · constructor
      · have hstep : filling.step none c = ([c], none) := by simp [filling, hnl]
        rw [run_cons, hstep, line, Text.keepLine_cons hnl]
        rfl
      · intro blank hb hn
        by_cases hc : Text.isSpace c = true
        · have hstep : filling.step (some blank) c = ([], some (blank ++ [c])) := by
            simp [filling, hnl, hc]
          have hb' : Text.isBlank (blank ++ [c]) = true := by
            rw [Text.isBlank_append, hb]
            simpa [Text.isBlank] using hc
          have hn' : '\n' ∉ blank ++ [c] := by simp [hn, Ne.symm hnl]
          rw [run_cons, hstep, gap _ hb' hn']
          simp
        · have hfalse : Text.isSpace c = false := by simpa using hc
          have hstep : filling.step (some blank) c = (blank ++ [c], none) := by
            simp [filling, hnl, hfalse]
          rw [run_cons, hstep, line, Text.dropBlankLines_word hn hfalse]
          simp

end Scanner

end PageFilters
