import PageFilters.Proofs.PipeLists
import PageFilters.Proofs.Traversal

namespace PageFilters.PipeList

/-- A letter of ASCII, or an underscore. -/
def Letter (c : Char) : Prop := ('A' ≤ c ∧ c ≤ 'Z') ∨ ('a' ≤ c ∧ c ≤ 'z') ∨ c = '_'

def Digit (c : Char) : Prop := '0' ≤ c ∧ c ≤ '9'

/-- A letter, with letters and digits behind it. -/
def Identifier (name : String) : Prop :=
  ∃ first rest, name.toList = first :: rest ∧ Letter first ∧ ∀ c ∈ rest, Letter c ∨ Digit c

/-- What stands between the commas of a list, without the white space around it. -/
def entries (list : String) : List String :=
  (list.toList.splitOn ',').map fun part => String.ofList (Text.trimChars part)

/-- The error about an entry that is no identifier. -/
inductive Refused (list entry : String) : FilterError → Prop
  /-- The entry goes on behind a name as if with arguments. -/
  | argument {head rest : List Char} {c : Char} (hentry : entry.toList = head ++ c :: rest)
      (hhead : ∀ d ∈ head, d ≠ '(' ∧ Text.isSpace d = false)
      (hc : c = '(' ∨ Text.isSpace c = true) :
      Refused list entry (.invalidArgument (String.ofList head)
        s!"pipe filter list `{Text.trim list}` does not accept arguments")
  | unknown (hplain : ∀ c ∈ entry.toList, c ≠ '(' ∧ Text.isSpace c = false)
      (hname : ¬ Identifier entry) : Refused list entry (.unknown entry (Text.trim list))

theorem isUpper_iff {c : Char} : c.isUpper = true ↔ 'A' ≤ c ∧ c ≤ 'Z' := decide_eq_true_iff

theorem isLower_iff {c : Char} : c.isLower = true ↔ 'a' ≤ c ∧ c ≤ 'z' := by
  have hboth : c.isLower = true ↔ decide ('a' ≤ c) = true ∧ decide (c ≤ 'z') = true :=
    Bool.and_eq_true_iff
  rw [hboth, decide_eq_true_iff, decide_eq_true_iff]

theorem isDigit_iff {c : Char} : c.isDigit = true ↔ Digit c := by
  have hboth : c.isDigit = true ↔ decide ('0' ≤ c) = true ∧ decide (c ≤ '9') = true :=
    Bool.and_eq_true_iff
  rw [hboth, decide_eq_true_iff, decide_eq_true_iff, Digit]

theorem isNameStart_iff {c : Char} : isNameStart c = true ↔ Letter c := by
  have halpha : c.isAlpha = true ↔ c.isUpper = true ∨ c.isLower = true := Bool.or_eq_true_iff
  rw [isNameStart, Bool.or_eq_true_iff, halpha, isUpper_iff, isLower_iff, beq_iff_eq, or_assoc]
  rfl

theorem isNameChar_iff {c : Char} : isNameChar c = true ↔ Letter c ∨ Digit c := by
  have halphanum : c.isAlphanum = true ↔ c.isAlpha = true ∨ c.isDigit = true :=
    Bool.or_eq_true_iff
  rw [← isNameStart_iff, ← isDigit_iff, isNameStart, isNameChar, Bool.or_eq_true_iff,
    Bool.or_eq_true_iff, halphanum, or_right_comm]

theorem isName_iff {name : String} : isName name.toList = true ↔ Identifier name := by
  unfold Identifier
  cases name.toList with
  | nil => simp [isName]
  | cons c cs => simp [isName, isNameStart_iff, isNameChar_iff]

theorem startsArgument_iff {c : Char} :
    startsArgument c = true ↔ c = '(' ∨ Text.isSpace c = true := by
  simp [startsArgument]

theorem startsArgument_eq_false_iff {c : Char} :
    startsArgument c = false ↔ c ≠ '(' ∧ Text.isSpace c = false := by
  simp [startsArgument]

theorem checkName_ok_iff {list entry name : String} :
    checkName list entry.toList = .ok name ↔ Identifier entry ∧ entry = name := by
  rw [checkName_eq_ok, isName_iff, String.ofList_toList, eq_comm (a := name)]

theorem checkName_of_plain {list : String} {cs : List Char}
    (hplain : ∀ c ∈ cs, startsArgument c = false) :
    checkName list cs =
      if isName cs then .ok (String.ofList cs) else .error (.unknown (String.ofList cs) list) := by
  have hany : ¬ cs.any startsArgument = true := by
    rw [Bool.not_eq_true, List.any_eq_false]
    exact fun c hc => by simp [hplain c hc]
  rw [checkName, if_neg hany]

theorem checkName_of_argument {list : String} {head rest : List Char} {c : Char}
    (hhead : ∀ d ∈ head, startsArgument d = false) (hc : startsArgument c = true) :
    checkName list (head ++ c :: rest) = .error (.invalidArgument (String.ofList head)
      s!"pipe filter list `{list}` does not accept arguments") := by
  have hany : (head ++ c :: rest).any startsArgument = true := by simp [hc]
  have htake : (head ++ c :: rest).takeWhile (fun c => !startsArgument c) = head := by
    rw [List.takeWhile_append_of_pos fun d hd => by simp [hhead d hd],
      List.takeWhile_cons_of_neg (by simp [hc]), List.append_nil]
  rw [checkName, if_pos hany, htake]

/-- The check of an entry turns on its first character that ends a name, if it has one. -/
theorem checkName_error_iff {list entry : String} {e : FilterError} :
    checkName (Text.trim list) entry.toList = .error e ↔ Refused list entry e := by
  have hname : isName entry.toList = true ↔ Identifier entry := isName_iff
  constructor
  · intro h
    obtain hplain | ⟨head, c, rest, hentry, hhead, hc⟩ :=
      forall_or_exists_first (startsArgument · = false) entry.toList
    · rw [checkName_of_plain hplain] at h
      split at h
      next => cases h
      next hno =>
        cases h
        rw [String.ofList_toList]
        exact .unknown (fun c hc => startsArgument_eq_false_iff.mp (hplain c hc))
          (mt hname.mpr hno)
    · rw [Bool.not_eq_false] at hc
      rw [hentry, checkName_of_argument hhead hc] at h
      cases h
      exact .argument hentry (fun d hd => startsArgument_eq_false_iff.mp (hhead d hd))
        (startsArgument_iff.mp hc)
  · intro h
    cases h with
    | argument hentry hhead hc =>
      rw [hentry]
      exact checkName_of_argument (fun d hd => startsArgument_eq_false_iff.mpr (hhead d hd))
        (startsArgument_iff.mpr hc)
    | unknown hplain hno =>
      rw [checkName_of_plain fun c hc => startsArgument_eq_false_iff.mpr (hplain c hc),
        if_neg (mt hname.mp hno), String.ofList_toList]

/-- A list that is not blank is read entry by entry. -/
theorem parse_of_not_blank {list : String} (h : Text.isBlank list.toList = false) :
    parse list = (entries list).mapM fun entry => checkName (Text.trim list) entry.toList := by
  unfold parse entries
  rw [Text.segments_comma, if_neg (by simp [h]), List.mapM_map, List.mapM_map]
  simp only [Function.comp_def, String.toList_ofList]

/-- The entry of a blank list is no identifier. -/
theorem not_blank_of_identifiers {list : String} (h : ∀ entry ∈ entries list, Identifier entry) :
    Text.isBlank list.toList = false := by
  rw [Bool.eq_false_iff]
  intro hblank
  obtain ⟨part, parts, hsplit⟩ := List.exists_cons_of_ne_nil
    (show list.toList.splitOn ',' ≠ [] from List.splitOnP_ne_nil _ _)
  have hjoin : [','].intercalate (list.toList.splitOn ',') = list.toList :=
    List.intercalate_splitOn ','
  rw [← hjoin, hsplit] at hblank
  have hname := isName_iff.mpr (h (String.ofList (Text.trimChars part)) (by simp [entries, hsplit]))
  exact (padded_trim part).not_blank hname (Text.isBlank_head_of_intercalate hblank)

theorem parse_ok_iff {list : String} {names : List String} :
    parse list = .ok names ↔ (Text.isBlank list.toList = true ∧ names = []) ∨
      (∀ entry ∈ entries list, Identifier entry) ∧ names = entries list := by
  cases hblank : Text.isBlank list.toList with
  | true =>
    have hno : ¬ ∀ entry ∈ entries list, Identifier entry := by
      intro h
      rw [not_blank_of_identifiers h] at hblank
      cases hblank
    have hparse : parse list = .ok [] := by rw [parse, if_pos hblank]
    rw [hparse, Except.ok.injEq, eq_comm]
    simp [hno]
  | false =>
    rw [parse_of_not_blank hblank, mapM_eq_ok_iff]
    simp only [checkName_ok_iff, List.forall₂_and_left, List.forall₂_eq_eq_eq]
    simp [eq_comm]

theorem parse_error_iff {list : String} {e : FilterError} :
    parse list = .error e ↔ Text.isBlank list.toList = false ∧
      ∃ before entry after, entries list = before ++ entry :: after ∧
        (∀ name ∈ before, Identifier name) ∧ Refused list entry e := by
  cases hblank : Text.isBlank list.toList with
  | true =>
    rw [parse, if_pos hblank]
    exact ⟨nofun, nofun⟩
  | false =>
    rw [parse_of_not_blank hblank, mapM_eq_error_iff]
    simp only [checkName_ok_iff, checkName_error_iff, exists_eq_right', true_and]

/-- Names with white space around them, joined by commas, are read as they are. -/
theorem parse_joined {names parts : List String} (hne : names ≠ [])
    (hnames : ∀ name ∈ names, Identifier name)
    (hparts : List.Forall₂ (fun name part => Padded name part.toList) names parts) :
    parse (",".intercalate parts) = .ok names := by
  refine parse_eq_ok_iff.mpr (.inr ⟨hne, fun name hn => isName_iff.mpr (hnames name hn),
    parts.map String.toList, String.toList_intercalate, ?_⟩)
  rwa [List.forall₂_map_right_iff]

/-- A list is read exactly if it is blank or its entries are identifiers, which are then the names
that it holds. If not, it is refused for the first entry that is no identifier. -/
theorem parse_exact :
    (∀ list names, parse list = .ok names ↔
      (Text.isBlank list.toList = true ∧ names = []) ∨
        (∀ entry ∈ entries list, Identifier entry) ∧ names = entries list) ∧
    (∀ names parts, names ≠ [] → (∀ name ∈ names, Identifier name) →
      List.Forall₂ (fun name part => Padded name part.toList) names parts →
      parse (",".intercalate parts) = .ok names) ∧
    (∀ list e, parse list = .error e ↔ Text.isBlank list.toList = false ∧
      ∃ before entry after, entries list = before ++ entry :: after ∧
        (∀ name ∈ before, Identifier name) ∧ Refused list entry e) :=
  ⟨fun _ _ => parse_ok_iff, fun _ _ hne hnames hparts => parse_joined hne hnames hparts,
    fun _ _ => parse_error_iff⟩

/-- Names between various kinds of white space, parentheses that hold a comma, and nothing between
two commas. -/
theorem parse_exact_crowded :
    parse " Trim ,\u00a0H,_x1\n" = .ok ["Trim", "H", "_x1"] ∧
    parse "Trim,Repeat(3,x),?" = .error (.invalidArgument "Repeat"
      "pipe filter list `Trim,Repeat(3,x),?` does not accept arguments") ∧
    parse " Trim,, H 2" = .error (.unknown "" "Trim,, H 2") := by
  have identifier : ∀ name ∈ ["Trim", "H", "_x1"], Identifier name := by
    intro name hname
    refine isName_iff.mp ?_
    have hall : ∀ name ∈ ["Trim", "H", "_x1"], isName name.toList = true := by decide
    exact hall name hname
  refine ⟨?_, ?_, ?_⟩
  · refine parse_exact.2.1 ["Trim", "H", "_x1"] [" Trim ", "\u00a0H", "_x1\n"] (by decide)
      identifier (.cons ⟨[' '], [' '], ?_⟩ (.cons ⟨['\u00a0'], [], ?_⟩
        (.cons ⟨[], ['\n'], ?_⟩ .nil)))
    all_goals decide
  · refine (parse_exact.2.2 _ _).mpr ⟨by decide, ["Trim"], "Repeat(3", ["x)", "?"],
      by decide +kernel, fun name hname => identifier name (by simp_all), ?_⟩
    have hentry : "Repeat(3".toList = "Repeat".toList ++ '(' :: ['3'] := by decide
    have hhead : "Repeat".toList.all (fun d => !startsArgument d) = true := by decide
    refine .argument hentry (fun d hd => startsArgument_eq_false_iff.mp ?_) (.inl rfl)
    simpa using List.all_eq_true.mp hhead d hd
  · refine (parse_exact.2.2 _ _).mpr ⟨by decide, ["Trim"], "", ["H 2"],
      by decide +kernel, fun name hname => identifier name (by simp_all), ?_⟩
    exact .unknown (by simp) fun h => absurd (isName_iff.mpr h) (by decide)

end PageFilters.PipeList
