import PageFilters.PipeList
import PageFilters.Proofs.Lines
import PageFilters.Proofs.Traversal

namespace PageFilters

namespace Text

theorem segments_eq_splitOnP {α : Type} (sep : α → Bool) (as : List α) :
    segments sep as = as.splitOnP sep := by
  induction as with
  | nil => rfl
  | cons a as ih =>
    rw [segments, ih, List.splitOnP_cons_eq_if_modifyHead]
    cases hparts : as.splitOnP sep with
    | nil => exact absurd hparts (List.splitOnP_ne_nil sep as)
    | cons part parts => rfl

theorem segments_comma (cs : List Char) : segments (· == ',') cs = cs.splitOn ',' :=
  segments_eq_splitOnP _ cs

theorem trimChars_of_inner {left right cs : List Char} {first last : Char}
    (hleft : isBlank left = true) (hright : isBlank right = true) (hfirst : isSpace first = false)
    (hlast : isSpace last = false) (hhead : cs.head? = some first)
    (hend : cs.getLast? = some last) : trimChars (left ++ cs ++ right) = cs := by
  obtain ⟨tail, rfl⟩ := List.head?_eq_some_iff.mp hhead
  have hstart : trimStart (left ++ (first :: tail) ++ right) = first :: tail ++ right := by
    rw [trimStart, List.append_assoc, List.dropWhile_append_of_pos (List.all_eq_true.mp hleft)]
    simp [hfirst]
  obtain ⟨front, hfront⟩ := List.getLast?_eq_some_iff.mp hend
  rw [trimChars, hstart, hfront, List.append_assoc, List.singleton_append,
    trimEnd_append front hlast, trimEnd_of_blank hright]

/-- What is trimmed off is white space. -/
theorem exists_trimmed (cs : List Char) :
    ∃ left right, isBlank left = true ∧ isBlank right = true ∧
      cs = left ++ trimChars cs ++ right := by
  have hdropped : ∀ as : List Char, ∃ front, isBlank front = true ∧
      as = front ++ as.dropWhile isSpace := by
    intro as
    refine ⟨as.takeWhile isSpace, ?_, List.takeWhile_append_dropWhile.symm⟩
    exact List.all_eq_true.mpr fun c hc => List.mem_takeWhile_imp hc
  obtain ⟨left, hleft, hcs⟩ := hdropped cs
  obtain ⟨back, hback, hrev⟩ := hdropped (trimStart cs).reverse
  refine ⟨left, back.reverse, hleft, ?_, ?_⟩
  · rw [isBlank, List.all_reverse]
    exact hback
  · have hstart := congrArg List.reverse hrev
    rw [List.reverse_reverse, List.reverse_append] at hstart
    rw [List.append_assoc]
    exact hcs.trans (congrArg (left ++ ·) hstart)

theorem isBlank_head_of_intercalate {part : List Char} {parts : List (List Char)}
    (h : isBlank ([','].intercalate (part :: parts)) = true) : isBlank part = true := by
  cases parts with
  | nil => simpa using h
  | cons next parts =>
    rw [List.intercalate_cons_cons, isBlank_append, isBlank_append, Bool.and_eq_true,
      Bool.and_eq_true] at h
    exact h.1.1

end Text

namespace PipeList

/-- A name with white space around it. -/
def Padded (name : String) (part : List Char) : Prop :=
  ∃ left right, Text.isBlank left = true ∧ Text.isBlank right = true ∧
    part = left ++ name.toList ++ right

/-- What a pipe list has to be to hold the names: comma separated with white space around them, or
blank if there are none. -/
def Writes (list : String) (names : List String) : Prop :=
  (Text.isBlank list.toList = true ∧ names = []) ∨
    names ≠ [] ∧ (∀ name ∈ names, isName name.toList = true) ∧
      ∃ parts, list.toList = [','].intercalate parts ∧ List.Forall₂ Padded names parts

theorem isNameChar_inner {c : Char} (h : isNameChar c = true) :
    c ≠ ',' ∧ Text.isSpace c = false ∧ startsArgument c = false := by
  have hrange : c.toNat < 128 := by
    rcases Bool.or_eq_true_iff.mp h with h | h
    · exact Text.toNat_lt_of_isAlphanum h
    · rw [beq_iff_eq.mp h]
      decide
  have hall : ∀ n < 128, isNameChar (Char.ofNat n) = true → Char.ofNat n ≠ ',' ∧
      Text.isSpace (Char.ofNat n) = false ∧ startsArgument (Char.ofNat n) = false := by decide
  rw [← Char.ofNat_toNat c] at h ⊢
  exact hall c.toNat hrange h

theorem isName_inner {cs : List Char} (h : isName cs = true) :
    cs ≠ [] ∧ ∀ c ∈ cs, isNameChar c = true := by
  cases cs with
  | nil => cases h
  | cons c cs =>
    rw [isName, Bool.and_eq_true] at h
    refine ⟨List.cons_ne_nil c cs, ?_⟩
    intro d hd
    rcases List.mem_cons.mp hd with rfl | hd
    · have hstart := h.1
      simp only [isNameStart, isNameChar, Char.isAlphanum, Bool.or_eq_true] at hstart ⊢
      tauto
    · exact List.all_eq_true.mp h.2 d hd

theorem checkName_eq_ok {list name : String} {piece : List Char} :
    checkName list piece = .ok name ↔ isName piece = true ∧ name = String.ofList piece := by
  unfold checkName
  split
  next hany =>
    refine ⟨nofun, fun ⟨hname, _⟩ => ?_⟩
    obtain ⟨c, hc, hargument⟩ := List.any_eq_true.mp hany
    have := (isNameChar_inner ((isName_inner hname).2 c hc)).2.2
    rw [hargument] at this
    cases this
  next =>
    split
    next hname =>
      rw [Except.ok.injEq]
      exact ⟨fun h => ⟨hname, h.symm⟩, fun h => h.2.symm⟩
    next hname => exact ⟨nofun, fun h => absurd h.1 hname⟩

theorem mapM_checkName {list : String} {pieces : List (List Char)} {names : List String} :
    pieces.mapM (checkName list) = .ok names ↔
      (∀ piece ∈ pieces, isName piece = true) ∧ names = pieces.map String.ofList := by
  have hnames : List.Forall₂ (fun piece name => name = String.ofList piece) pieces names ↔
      names = pieces.map String.ofList := by
    rw [eq_comm (a := names), ← List.forall₂_eq_eq_eq, List.forall₂_map_left_iff]
    simp only [eq_comm]
  rw [mapM_eq_ok_iff]
  simp only [checkName_eq_ok, List.forall₂_and_left, hnames]

theorem padded_trim (part : List Char) : Padded (String.ofList (Text.trimChars part)) part := by
  rw [Padded, String.toList_ofList]
  exact Text.exists_trimmed part

theorem Padded.trim {name : String} {part : List Char} (h : Padded name part)
    (hname : isName name.toList = true) : Text.trimChars part = name.toList := by
  obtain ⟨left, right, hleft, hright, rfl⟩ := h
  obtain ⟨hne, hinner⟩ := isName_inner hname
  have hspace := fun c hc => (isNameChar_inner (hinner c hc)).2.1
  exact Text.trimChars_of_inner hleft hright (hspace _ (List.head_mem hne))
    (hspace _ (List.getLast_mem hne)) (List.head?_eq_some_head hne)
    (List.getLast?_eq_some_getLast hne)

theorem Padded.comma_not_mem {name : String} {part : List Char} (h : Padded name part)
    (hname : isName name.toList = true) : ',' ∉ part := by
  obtain ⟨left, right, hleft, hright, rfl⟩ := h
  have hblank : ∀ cs : List Char, Text.isBlank cs = true → ',' ∉ cs :=
    fun cs hcs hmem => absurd (List.all_eq_true.mp hcs ',' hmem) (by decide)
  simp only [List.mem_append, not_or]
  exact ⟨⟨hblank left hleft, fun hmem => (isNameChar_inner ((isName_inner hname).2 _ hmem)).1 rfl⟩,
    hblank right hright⟩

theorem Padded.not_blank {name : String} {part : List Char} (h : Padded name part)
    (hname : isName name.toList = true) : Text.isBlank part ≠ true := by
  obtain ⟨left, right, _, _, rfl⟩ := h
  obtain ⟨hne, hinner⟩ := isName_inner hname
  intro hblank
  rw [Text.isBlank_append, Text.isBlank_append, Bool.and_eq_true, Bool.and_eq_true] at hblank
  have hspace := List.all_eq_true.mp hblank.1.2 _ (List.head_mem hne)
  have := (isNameChar_inner (hinner _ (List.head_mem hne))).2.1
  rw [hspace] at this
  cases this

theorem trim_forall₂ {names : List String} {parts : List (List Char)}
    (h : List.Forall₂ Padded names parts) (hnames : ∀ name ∈ names, isName name.toList = true) :
    parts.map Text.trimChars = names.map String.toList ∧ ∀ part ∈ parts, ',' ∉ part := by
  induction h with
  | nil => exact ⟨rfl, nofun⟩
  | cons hpart _ ih =>
    obtain ⟨hname, hnames⟩ := List.forall_mem_cons.mp hnames
    obtain ⟨htrim, hcomma⟩ := ih hnames
    rw [List.map_cons, List.map_cons, hpart.trim hname, htrim]
    exact ⟨rfl, List.forall_mem_cons.mpr ⟨hpart.comma_not_mem hname, hcomma⟩⟩

/-- A pipe list is read exactly as the names that it writes. -/
theorem parse_eq_ok_iff {list : String} {names : List String} :
    parse list = .ok names ↔ Writes list names := by
  unfold parse Writes
  rw [Text.segments_comma]
  split
  next hblank =>
    constructor
    · intro h
      exact .inl ⟨hblank, (Except.ok.inj h).symm⟩
    · rintro (⟨_, rfl⟩ | ⟨hne, hnames, parts, hlist, hparts⟩)
      · rfl
      · cases hparts with
        | nil => exact absurd rfl hne
        | cons hpart _ =>
          rw [hlist] at hblank
          have := Text.isBlank_head_of_intercalate hblank
          exact absurd this (hpart.not_blank (hnames _ List.mem_cons_self))
  next hblank =>
    rw [mapM_checkName]
    constructor
    · rintro ⟨hnames, rfl⟩
      refine .inr ⟨?_, ?_, list.toList.splitOn ',', (List.intercalate_splitOn ',').symm, ?_⟩
      · simp [List.splitOn]
      · intro name hname
        obtain ⟨piece, hpiece, rfl⟩ := List.mem_map.mp hname
        rw [String.toList_ofList]
        exact hnames piece hpiece
      · rw [List.map_map, List.forall₂_map_left_iff, List.forall₂_same]
        exact fun part _ => padded_trim part
    · rintro (⟨h, _⟩ | ⟨hne, hnames, parts, hlist, hparts⟩)
      · exact absurd h hblank
      · obtain ⟨htrim, hcomma⟩ := trim_forall₂ hparts hnames
        have hnil : parts ≠ [] := by
          rintro rfl
          exact hne (List.forall₂_nil_right_iff.mp hparts)
        rw [hlist, List.splitOn_intercalate ',' hcomma hnil, htrim]
        refine ⟨fun piece hpiece => ?_, ?_⟩
        · obtain ⟨name, hname, rfl⟩ := List.mem_map.mp hpiece
          exact hnames name hname
        · rw [List.map_map]
          simp [Function.comp_def]

end PipeList

end PageFilters
