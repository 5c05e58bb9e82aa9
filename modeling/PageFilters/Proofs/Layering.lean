import PageFilters.Proofs.Fields
import PageFilters.Settings.Layers

namespace PageFilters

namespace Settings

open Data (Settled Sectioned)

variable {sect name : String} {fields inner : List (String × Data)} {steps : List Data.Step}
  {value : Data}

/-- What a value says about a setting if it is laid at the end of some steps from its section. -/
def saidInside (name : String) : List Data.Step → Data → Option Data
  | [], value => value.field? name
  | [.field n], value => if n = name then some value else none
  | _, _ => none

/-- A value laid at the end of some steps leaves the section a table, and the setting in it none. -/
def FitsInside (name : String) : List Data.Step → Data → Prop
  | [], value => value.isTable = true ∧ (value.field? name).any Data.isTable = false
  | [.field n], value => n = name → value.isTable = false
  | .field n :: _, _ => n ≠ name
  | .item _ :: _, _ => False

instance : Decidable (FitsInside name steps value) :=
  match steps with
  | [] => inferInstanceAs (Decidable (_ ∧ _))
  | [.field _] => inferInstanceAs (Decidable (_ → _))
  | .field _ :: _ :: _ => inferInstanceAs (Decidable (_ ≠ _))
  | .item _ :: _ => inferInstanceAs (Decidable False)

/-- What a value says about a setting if it is laid at the end of some steps. -/
def said (sect name : String) : List Data.Step → Data → Option Data
  | .field s :: steps, value => if s = sect then saidInside name steps value else none
  | _, _ => none

def Fits (sect name : String) : List Data.Step → Data → Prop
  | .field s :: steps, value => s = sect → FitsInside name steps value
  | _, _ => False

instance : Decidable (Fits sect name steps value) :=
  match steps with
  | [] => inferInstanceAs (Decidable False)
  | .item _ :: _ => inferInstanceAs (Decidable False)
  | .field _ :: _ => inferInstanceAs (Decidable (_ → _))

theorem changeAt_inside {found : Option Data} (hs : Settled inner)
    (hfound : found = some (.table inner) ∨ found = none ∧ inner = [])
    (hfits : FitsInside name steps value) :
    ∃ inner', Data.changeAt value.overlay steps (found.getD .null) = .table inner' ∧
      Settled inner' ∧
      inner'.lookup name = (saidInside name steps value).or (inner.lookup name) := by
  cases steps with
  | nil =>
    obtain ⟨htable, hleaf⟩ := hfits
    obtain ⟨upper, rfl⟩ : ∃ upper, value = .table upper := ⟨_, Data.eq_table_of_isTable htable⟩
    refine ⟨Data.overlayFields upper inner, ?_, hs.overlayFields upper,
      Data.lookup_overlayFields (fun value hvalue => ?_) inner⟩
    · obtain rfl | ⟨rfl, rfl⟩ := hfound
      · rw [Option.getD_some, Data.changeAt, Data.overlay]
      · rw [Option.getD_none, Data.changeAt, Data.overlay]
        simp
    · rw [hvalue] at hleaf
      exact hleaf
  | cons step steps =>
    cases step with
    | item index => cases hfits
    | field n =>
      refine ⟨Data.setField inner n (Data.changeAt value.overlay steps
        ((inner.lookup n).getD .null)), ?_, hs.setField n _, ?_⟩
      · obtain rfl | ⟨rfl, rfl⟩ := hfound
        · rfl
        · rfl
      · rw [Data.lookup_setField]
        by_cases hn : n = name
        · subst hn
          cases steps with
          | nil =>
            rw [if_pos rfl, saidInside, if_pos rfl, Data.changeAt,
              Data.overlay_of_not_isTable (hfits rfl), Option.some_or]
          | cons =>
            -- Whatever lies further inside would make the setting a table.
            exact absurd rfl hfits
        · have hsaid : saidInside name (.field n :: steps) value = none := by
            cases steps with
            | nil => exact if_neg hn
            | cons => rfl
          rw [hsaid, Option.none_or, if_neg (Ne.symm hn)]

/-- A setting is what the value says, or else what it was. -/
theorem changeAt_said (h : Sectioned sect fields inner) (hfits : Fits sect name steps value) :
    ∃ fields' inner', Data.changeAt value.overlay steps (.table fields) = .table fields' ∧
      Sectioned sect fields' inner' ∧
      inner'.lookup name = (said sect name steps value).or (inner.lookup name) := by
  cases steps with
  | nil => cases hfits
  | cons step steps =>
    cases step with
    | item index => cases hfits
    | field s =>
      by_cases hs : s = sect
      · subst hs
        obtain ⟨inner', hchange, hsettled, hlookup⟩ :=
          changeAt_inside h.settled h.found (hfits rfl)
        refine ⟨Data.setField fields s (.table inner'), inner', ?_, ⟨h.outer.setField s _, hsettled,
          .inl ?_⟩, ?_⟩
        · rw [← hchange]
          rfl
        · rw [Data.lookup_setField, if_pos rfl]
        · rw [said, if_pos rfl, hlookup]
      · refine ⟨Data.setField fields s _, inner, rfl, ⟨h.outer.setField s _, h.settled, ?_⟩, ?_⟩
        · rw [Data.lookup_setField, if_neg (Ne.symm hs)]
          exact h.found
        · rw [said, if_neg hs, Option.none_or]

/-- The fields of a source. -/
abbrev Source := List (String × Data)

namespace Source

/-- What a source says about a setting. The last of its fields that say anything counts. -/
def said (sect name : String) : Source → Option Data
  | [] => none
  | (key, value) :: source =>
    (said sect name source).or (Settings.said sect name (Settings.steps key) value)

def Fits (sect name : String) (source : Source) : Prop :=
  ∀ field ∈ source, Settings.Fits sect name (Settings.steps field.1) field.2

instance (source : Source) : Decidable (source.Fits sect name) :=
  inferInstanceAs (Decidable (∀ field ∈ source, _))

end Source

theorem lay_said {source : Source} (h : Sectioned sect fields inner)
    (hfits : source.Fits sect name) :
    ∃ fields' inner', lay (.table fields) source = .table fields' ∧
      Sectioned sect fields' inner' ∧
      inner'.lookup name = (source.said sect name).or (inner.lookup name) := by
  induction source generalizing fields inner with
  | nil => exact ⟨fields, inner, rfl, h, rfl⟩
  | cons field source ih =>
    obtain ⟨hfield, hsource⟩ := List.forall_mem_cons.mp hfits
    obtain ⟨fields₁, inner₁, hchange, h₁, hlookup⟩ := changeAt_said h hfield
    obtain ⟨fields₂, inner₂, hlay, h₂, hlookup'⟩ := ih h₁ hsource
    refine ⟨fields₂, inner₂, ?_, h₂, ?_⟩
    · rw [← hlay, ← hchange]
      rfl
    · rw [hlookup', hlookup, Source.said, Option.or_assoc]

/-- What the file under a path holds. -/
inductive FileHolds (files : Files) (required : Bool) (path : String) : Source → Prop
  | found {reader : Reader} {bytes : ByteArray} {source : Source}
      (h : findFile files path = some (reader, bytes))
      (hread : reader (Text.decode bytes) = some (.table source))
      (hrange : Data.fieldsInRange source = true) : FileHolds files required path source
  | missing (h : findFile files path = none) (hr : required = false) :
      FileHolds files required path []

section

variable {files : Files} {required : Bool} {path : String}

theorem FileHolds.layFile_eq {source : Source} (h : FileHolds files required path source)
    (below : Data) : layFile files required path below = .ok (lay below source) := by
  cases h with
  | found h hread hrange => simp [layFile, h, hread, hrange]
  | missing h hr => simp [layFile, h, hr, lay]

theorem layFile_eq_error (h : ∀ source, ¬ FileHolds files required path source) (below : Data) :
    layFile files required path below = .error .build := by
  unfold layFile
  split
  next hfile =>
    split
    next source hread =>
      split
      next hrange => exact absurd (.found hfile hread hrange) (h source)
      next => rfl
    next => rfl
  next hfile =>
    split
    next => rfl
    next hr => exact absurd (.missing hfile (by simpa using hr)) (h [])

end

/-- The settings, each by its section and its name there. -/
def keys : List (String × String) :=
  [("logging", "level"), ("logging", "json"), ("cache", "enabled"), ("cache", "capacity"),
    ("cache", "default_ttl_seconds")]

/-- Sources of settings, in the order in which they are laid over each other: the two files that
every run reads, the file that the caller names, then variables. -/
structure Layers where
  first : Source
  second : Source
  named : Source
  shell : Source

namespace Layers

/-- The sources are those of a run. -/
structure Found (l : Layers) (files : Files) (environment : List (String × String))
    (configFile : Option String) : Prop where
  first : FileHolds files false "config/default" l.first
  second : FileHolds files false "mason-filter" l.second
  named : ∀ path, configFile = some path → FileHolds files true path l.named
  unnamed : configFile = none → l.named = []
  shell : l.shell = environment.filterMap settingIn?

/-- What the sources say about a setting: the last one that says anything hides all others. -/
def said (l : Layers) (sect name : String) : Option Data :=
  (l.shell.said sect name).or <| (l.named.said sect name).or <|
    (l.second.said sect name).or (l.first.said sect name)

/-- All sources keep to sections of settings. -/
def Fits (l : Layers) : Prop :=
  ∀ key ∈ keys, ∀ source ∈ [l.first, l.second, l.named, l.shell], source.Fits key.1 key.2

instance (l : Layers) : Decidable l.Fits :=
  inferInstanceAs (Decidable (∀ key ∈ keys, ∀ source ∈ _, Source.Fits key.1 key.2 source))

/-- The draft holds what the sources say. -/
structure Holds (l : Layers) (d : Draft) : Prop where
  level : optional? text? (l.said "logging" "level") = some d.level
  json : optional? boolean? (l.said "logging" "json") = some d.json
  enabled : optional? boolean? (l.said "cache" "enabled") = some d.enabled
  capacity : optional? count? (l.said "cache" "capacity") = some d.capacity
  ttlSeconds : optional? count? (l.said "cache" "default_ttl_seconds") = some d.ttlSeconds

instance (l : Layers) (d : Draft) : Decidable (l.Holds d) :=
  decidable_of_iff
    (optional? text? (l.said "logging" "level") = some d.level ∧
      optional? boolean? (l.said "logging" "json") = some d.json ∧
      optional? boolean? (l.said "cache" "enabled") = some d.enabled ∧
      optional? count? (l.said "cache" "capacity") = some d.capacity ∧
      optional? count? (l.said "cache" "default_ttl_seconds") = some d.ttlSeconds)
    ⟨fun ⟨hl, hj, he, hc, ht⟩ => ⟨hl, hj, he, hc, ht⟩, fun ⟨hl, hj, he, hc, ht⟩ =>
      ⟨hl, hj, he, hc, ht⟩⟩

/-- All sources laid over each other. -/
def laid (l : Layers) : Data :=
  lay (lay (lay (lay (.table []) l.first) l.second) l.named) l.shell

variable {l : Layers} {files : Files} {environment : List (String × String)}
  {configFile : Option String}

theorem laid_said (hfits : l.Fits) {sect name : String} (hkey : (sect, name) ∈ keys) :
    ∃ fields inner, l.laid = .table fields ∧ Sectioned sect fields inner ∧
      inner.lookup name = l.said sect name := by
  have hsource := hfits _ hkey
  simp only [List.forall_mem_cons] at hsource
  obtain ⟨hfirst, hsecond, hnamed, hshell, _⟩ := hsource
  obtain ⟨fields₁, inner₁, hlay₁, h₁, hlookup₁⟩ := lay_said (.nil sect) hfirst
  obtain ⟨fields₂, inner₂, hlay₂, h₂, hlookup₂⟩ := lay_said h₁ hsecond
  obtain ⟨fields₃, inner₃, hlay₃, h₃, hlookup₃⟩ := lay_said h₂ hnamed
  obtain ⟨fields, inner, hlay, h, hlookup⟩ := lay_said h₃ hshell
  refine ⟨fields, inner, by rw [laid, hlay₁, hlay₂, hlay₃, hlay], h, ?_⟩
  rw [hlookup, hlookup₃, hlookup₂, hlookup₁, List.lookup_nil, Option.or_none, said]

/-- What is read of a section: the fields that it holds. -/
theorem record?_section {sect : String} {fields inner : List (String × Data)}
    (h : Sectioned sect fields inner) (names : List String) :
    record? names ((Data.table fields).field? sect) =
      some (names.map fun name => inner.lookup name) := by
  rw [h.outer]
  obtain hfound | ⟨hfound, rfl⟩ := h.found
  · rw [hfound, record?]
    exact congrArg some (List.map_congr_left fun name _ => h.settled name)
  · rw [hfound]
    rfl

theorem record?_laid (hfits : l.Fits) {sect : String} {names : List String}
    (hkeys : ∀ name ∈ names, (sect, name) ∈ keys) (hnames : names ≠ []) :
    record? names (l.laid.field? sect) = some (names.map (l.said sect)) := by
  -- The section is the same one for all its settings.
  obtain ⟨name, hname⟩ := List.exists_mem_of_ne_nil names hnames
  obtain ⟨fields, inner, hlaid, h, _⟩ := laid_said hfits (hkeys name hname)
  rw [hlaid, record?_section h]
  refine congrArg some (List.map_congr_left fun name hname => ?_)
  obtain ⟨fields', inner', hlaid', h', hlookup⟩ := laid_said hfits (hkeys name hname)
  cases hlaid.symm.trans hlaid'
  rw [h.unique h', hlookup]

theorem draft?_laid (hfits : l.Fits) (d : Draft) : draft? l.laid = some d ↔ l.Holds d := by
  have hlogging : record? ["level", "json"] (l.laid.field? "logging") = some _ :=
    record?_laid hfits (by decide) (by decide)
  have hcache : record? ["enabled", "capacity", "default_ttl_seconds"] (l.laid.field? "cache") =
      some _ := record?_laid hfits (by decide) (by decide)
  simp only [draft?, hlogging, hcache, List.map_cons, List.map_nil, Option.bind_eq_bind,
    Option.bind_some, Option.bind_eq_some_iff, Option.pure_def, Option.some.injEq]
  constructor
  · rintro ⟨level, hlevel, json, hjson, enabled, henabled, capacity, hcapacity, ttl, httl, rfl⟩
    exact ⟨hlevel, hjson, henabled, hcapacity, httl⟩
  · rintro ⟨hlevel, hjson, henabled, hcapacity, httl⟩
    exact ⟨_, hlevel, _, hjson, _, henabled, _, hcapacity, _, httl, rfl⟩

theorem Found.gather_eq (h : l.Found files environment configFile) :
    gather files environment configFile = match draft? l.laid with
      | some d => .ok d
      | none => .error .build := by
  have hnamed : ∀ below, (configFile.elim (.ok below) fun path => layFile files true path below) =
      .ok (lay below l.named) := by
    intro below
    cases configFile with
    | none =>
      rw [h.unnamed rfl]
      rfl
    | some path => exact (h.named path rfl).layFile_eq below
  simp only [gather, h.first.layFile_eq, h.second.layFile_eq, hnamed, ← h.shell, bind,
    Except.bind, laid]
  cases draft? _ with
  | none => rfl
  | some d => rfl

theorem gather_eq_error (h : ∀ l : Layers, ¬ l.Found files environment configFile) :
    gather files environment configFile = .error .build := by
  by_cases hfirst : ∃ source, FileHolds files false "config/default" source
  · obtain ⟨first, hfirst⟩ := hfirst
    by_cases hsecond : ∃ source, FileHolds files false "mason-filter" source
    · obtain ⟨second, hsecond⟩ := hsecond
      cases configFile with
      | none => exact absurd ⟨hfirst, hsecond, nofun, fun _ => rfl, rfl⟩ (h ⟨first, second, [], _⟩)
      | some path =>
        have hnamed : ∀ source, ¬ FileHolds files true path source := by
          intro source hsource
          refine h ⟨first, second, source, _⟩ ⟨hfirst, hsecond, ?_, nofun, rfl⟩
          rintro _ ⟨⟩
          exact hsource
        simp only [gather, hfirst.layFile_eq, hsecond.layFile_eq, Option.elim_some,
          layFile_eq_error hnamed, bind, Except.bind]
    · simp only [gather, hfirst.layFile_eq, layFile_eq_error (not_exists.mp hsecond), bind,
        Except.bind]
  · simp only [gather, layFile_eq_error (not_exists.mp hfirst), bind, Except.bind]

/-- The sources are read setting by setting, and there is an error if a setting cannot be read. -/
theorem Found.gather_iff (h : l.Found files environment configFile) (hfits : l.Fits) :
    (∀ d, gather files environment configFile = .ok d ↔ l.Holds d) ∧
      (gather files environment configFile = .error .build ↔ ∀ d, ¬ l.Holds d) := by
  rw [h.gather_eq]
  cases hdraft : draft? l.laid with
  | none =>
    have hnone : ∀ d, ¬ l.Holds d := by
      intro d hd
      cases hdraft.symm.trans ((draft?_laid hfits d).mpr hd)
    exact ⟨fun d => ⟨nofun, fun hd => absurd hd (hnone d)⟩, fun _ => hnone, fun _ => rfl⟩
  | some d =>
    have hholds := (draft?_laid hfits d).mp hdraft
    refine ⟨fun d' => ⟨?_, fun hd' => ?_⟩, nofun, fun hnone => absurd hholds (hnone d)⟩
    · rintro ⟨⟩
      exact hholds
    · cases hdraft.symm.trans ((draft?_laid hfits d').mpr hd')
      rfl

end Layers

/-- A variable under the name of a setting, in any case, says its text about this setting. -/
theorem settingIn?_key (hkey : (sect, name) ∈ keys) {variableName : String}
    (h : variableName.toList.map Char.toLower = ("mason_filter__" ++ sect ++ "__" ++ name).toList)
    (text : String) :
    ∃ key, settingIn? (variableName, text) = some (key, .text text) ∧
      Settings.steps key = [.field sect, .field name] := by
  simp only [keys, List.mem_cons, List.not_mem_nil, or_false, Prod.mk.injEq] at hkey
  dsimp only [settingIn?]
  rw [h]
  rcases hkey with ⟨rfl, rfl⟩ | ⟨rfl, rfl⟩ | ⟨rfl, rfl⟩ | ⟨rfl, rfl⟩ | ⟨rfl, rfl⟩
  all_goals exact ⟨_, if_pos (by decide +kernel), by decide +kernel⟩

end Settings

end PageFilters
