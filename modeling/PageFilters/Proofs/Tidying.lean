import PageFilters.Proofs.Commuting
import PageFilters.Proofs.PipeLists
import PageFilters.Proofs.Rendering
import PageFilters.Proofs.Item
import Mathlib.Logic.Function.Iterate

namespace PageFilters

namespace Standard

/-- The names of the filter that escapes HTML. -/
def escapeNames : List String := ["H", "HtmlEscape", "HTML"]

/-- The names of filters that may be written in any order. -/
def tidyNames : List String := "Trim" :: "NoBlankLines" :: escapeNames

/-- The function if the name is among those written. -/
def ifWritten (name : String) (names : List String) (f : String → String) : String → String :=
  if name ∈ names then f else id

/-- What becomes of a text: it is trimmed if that is written anywhere, then rid of its blank lines
if that is, and then escaped as often as that is. -/
def tidied (names : List String) (text : String) : String :=
  Text.htmlEscape^[names.countP (· ∈ escapeNames)]
    (ifWritten "NoBlankLines" names Text.noBlankLines (ifWritten "Trim" names Text.trim text))

theorem ifWritten_cons_self (name : String) (names : List String) (f : String → String) :
    ifWritten name (name :: names) f = f := by
  simp [ifWritten]

theorem ifWritten_cons_other {name other : String} (h : name ≠ other) (names : List String)
    (f : String → String) : ifWritten name (other :: names) f = ifWritten name names f := by
  simp [ifWritten, h]

theorem commute_ifWritten {f g : String → String} (h : Function.Commute f g) (name : String)
    (names : List String) : Function.Commute f (ifWritten name names g) := by
  unfold ifWritten
  split
  next => exact h
  next => exact Function.Commute.id_right

theorem ifWritten_absorb {f : String → String} (h : ∀ s, f (f s) = f s) (name : String)
    (names : List String) (s : String) : f (ifWritten name names f s) = f s := by
  unfold ifWritten
  split
  next => exact h s
  next => rfl

theorem tidied_nil (text : String) : tidied [] text = text := rfl

theorem tidied_trim (names : List String) (text : String) :
    tidied ("Trim" :: names) text = Text.trim (tidied names text) := by
  have hescape := Text.trim_htmlEscape.iterate_right (names.countP (· ∈ escapeNames))
  have hfill := commute_ifWritten Text.trim_noBlankLines "NoBlankLines" names
  rw [tidied, tidied, ifWritten_cons_self, ifWritten_cons_other (by decide), hescape, hfill,
    ifWritten_absorb Text.trim_trim, List.countP_cons_of_neg (by decide)]

theorem tidied_noBlankLines (names : List String) (text : String) :
    tidied ("NoBlankLines" :: names) text = Text.noBlankLines (tidied names text) := by
  have hescape := Text.noBlankLines_htmlEscape.iterate_right (names.countP (· ∈ escapeNames))
  rw [tidied, tidied, ifWritten_cons_self, ifWritten_cons_other (by decide), hescape,
    ifWritten_absorb Text.noBlankLines_noBlankLines, List.countP_cons_of_neg (by decide)]

theorem tidied_escape {name : String} (h : name ∈ escapeNames) (names : List String)
    (text : String) : tidied (name :: names) text = Text.htmlEscape (tidied names text) := by
  have hother : ∀ other, other ∉ escapeNames → other ≠ name := by
    rintro other ho rfl
    exact ho h
  rw [tidied, tidied, ifWritten_cons_other (hother _ (by decide)),
    ifWritten_cons_other (hother _ (by decide)), List.countP_cons_of_pos (by simpa using h),
    Function.iterate_succ_apply']

/-- A filter with one of the names does what is left to do after those behind it. -/
theorem item?_tidy {name : String} (h : name ∈ tidyNames) :
    ∃ r, item? name [] = some (.rewrite r) ∧
      ∀ names text, tidied (name :: names) text = r.apply (tidied names text) := by
  rcases List.mem_cons.mp h with rfl | h
  · exact ⟨.trim, rfl, tidied_trim⟩
  rcases List.mem_cons.mp h with rfl | h
  · exact ⟨.noBlankLines, rfl, tidied_noBlankLines⟩
  have hitem : ∀ other ∈ escapeNames, item? other [] = some (.rewrite .htmlEscape) := by decide
  exact ⟨.htmlEscape, hitem name h, tidied_escape h⟩

theorem items?_tidy {names : List String} (h : ∀ name ∈ names, name ∈ tidyNames) :
    ∃ rs : List Rewrite, (names.mapM fun name => item? name []) = some (rs.map Item.rewrite) ∧
      ∀ text, tidied names text = rs.foldr Rewrite.apply text := by
  induction names with
  | nil => exact ⟨[], rfl, tidied_nil⟩
  | cons name names ih =>
    obtain ⟨hname, hnames⟩ := List.forall_mem_cons.mp h
    obtain ⟨r, hitem, happly⟩ := item?_tidy hname
    obtain ⟨rs, hitems, htidied⟩ := ih hnames
    refine ⟨r :: rs, ?_, fun text => ?_⟩
    · rw [List.mapM_cons, hitem, hitems]
      rfl
    · rw [happly, htidied]
      rfl

end Standard

theorem Engine.runContent_rewrites (e : Engine) (rs : List Rewrite) (text : String) (s : State) :
    e.runContent (Filter.compose (rs.map fun r => Filter.ofText r.apply) (.literal text)) s =
      some (.ok (rs.foldr Rewrite.apply text), s) := by
  induction rs with
  | nil => rfl
  | cons r rs ih => exact e.runContent_simple_ok ih

/-- A pipe list of filters that trim, drop blank lines and escape resolves, and does the same to a
text in whatever order they are written, and however often the first two are. -/
theorem Registry.resolvePipe_tidied {list : String} {names : List String}
    (writes : PipeList.Writes list names) (tidy : ∀ name ∈ names, name ∈ Standard.tidyNames)
    (text : String) :
    ∃ fs, standard.resolvePipe list = .ok fs ∧
      ∀ (e : Engine) (s : State), e.runContent (Filter.compose fs (.literal text)) s =
        some (.ok (Standard.tidied names text), s) := by
  obtain ⟨rs, hitems, htidied⟩ := Standard.items?_tidy tidy
  have hresolve := standard_resolve (.piped list)
  simp only [Call.items?, PipeList.parse_eq_ok_iff.mpr writes, hitems, Option.map_some] at hresolve
  cases hfs : standard.resolvePipe list with
  | error error => simp [resolve, hfs, Except.toOption] at hresolve
  | ok fs =>
    refine ⟨fs, rfl, fun e s => ?_⟩
    have hfilters : fs = rs.map fun r => Filter.ofText r.apply := by
      simpa [resolve, hfs, Except.toOption, Function.comp_def] using hresolve
    rw [hfilters, htidied]
    exact e.runContent_rewrites rs text s

/-- The escape comes first and last, and the trim is written twice. -/
theorem Registry.resolvePipe_tidied_scrambled :
    ∃ fs, standard.resolvePipe "H, Trim,NoBlankLines ,Trim,HTML" = .ok fs ∧
      ∀ (e : Engine) (s : State),
        e.runContent (Filter.compose fs (.literal " \n <b>\n \n&\n ")) s =
          some (.ok "&amp;lt;b&amp;gt;\n&amp;amp;", s) := by
  have writes : PipeList.Writes "H, Trim,NoBlankLines ,Trim,HTML"
      ["H", "Trim", "NoBlankLines", "Trim", "HTML"] :=
    PipeList.parse_eq_ok_iff.mp (by decide +kernel)
  have htidied : Standard.tidied ["H", "Trim", "NoBlankLines", "Trim", "HTML"]
      " \n <b>\n \n&\n " = "&amp;lt;b&amp;gt;\n&amp;amp;" := by decide +kernel
  obtain ⟨fs, hfs, hrun⟩ := resolvePipe_tidied writes (by decide) " \n <b>\n \n&\n "
  rw [htidied] at hrun
  exact ⟨fs, hfs, hrun⟩

end PageFilters
