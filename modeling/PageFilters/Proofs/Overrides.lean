import PageFilters.Program
import PageFilters.Proofs.Layering

namespace PageFilters

/-- The value that a setting comes to have: the one given with the command, or else the one that the
other sources hold, or else its default. -/
def prevailing {α : Type} (given below : Option α) (fallback : α) : α :=
  given.getD (below.getD fallback)

/-- The values of the settings before any of them is checked. -/
structure Effective where
  level : String
  json : Bool
  enabled : Bool
  capacity : Nat
  /-- No seconds at all mean that fragments do not expire. -/
  ttlSeconds : Option Nat

/-- The values in effect for a command over those of the other sources. A command that lists filters
leaves the cache to the other sources. -/
def Command.effective (raw : Draft) : Command → Effective
  | render _ _ given =>
    { level := prevailing given.level raw.level "warn"
      json := prevailing given.json raw.json false
      enabled := prevailing given.enabled raw.enabled true
      capacity := prevailing given.capacity raw.capacity 1024
      ttlSeconds := given.ttlSeconds.or raw.ttlSeconds }
  | filters _ given =>
    { level := prevailing given.level raw.level "warn"
      json := prevailing given.json raw.json false
      enabled := raw.enabled.getD true
      capacity := raw.capacity.getD 1024
      ttlSeconds := raw.ttlSeconds }

namespace Effective

/-- What is asked of the values. -/
structure Valid (v : Effective) : Prop where
  level : (Level.ofText? v.level).isSome = true
  capacity : v.capacity ≠ 0
  ttlSeconds : v.ttlSeconds ≠ some 0

/-- All that is wrong with the values, by their keys: the level first, the expiry last. -/
def violations (v : Effective) : List LoadError :=
  (if (Level.ofText? v.level).isNone then
    [.invalid "logging.level" Settings.levelReason] else []) ++
  (if v.capacity = 0 then
    [.invalid "cache.capacity" "must be greater than zero and fit in usize"] else []) ++
  (if v.ttlSeconds = some 0 then
    [.invalid "cache.default_ttl_seconds" "must be greater than zero"] else [])

/-- The settings hold the values and nothing else. -/
structure Carried (v : Effective) (s : Settings) : Prop where
  level : Level.ofText? v.level = some s.level
  format : s.format = if v.json then .json else .compact
  enabled : s.enabled = v.enabled
  capacity : s.capacity = v.capacity
  ttlSeconds : s.ttlSeconds = v.ttlSeconds

/-- What comes of values that are checked in turn. -/
inductive Checked (v : Effective) : Except LoadError Settings → Prop
  | level (h : Level.ofText? v.level = none) :
      Checked v (.error (.invalid "logging.level" Settings.levelReason))
  | capacity {level : Level} (hl : Level.ofText? v.level = some level) (h : v.capacity = 0) :
      Checked v (.error (.invalid "cache.capacity" "must be greater than zero and fit in usize"))
  | ttlSeconds {level : Level} (hl : Level.ofText? v.level = some level) (hc : v.capacity ≠ 0)
      (h : v.ttlSeconds = some 0) :
      Checked v (.error (.invalid "cache.default_ttl_seconds" "must be greater than zero"))
  | valid {s : Settings} (h : v.Valid) (hs : v.Carried s) : Checked v (.ok s)

/-- The values of a draft, with defaults for what it leaves open. -/
def ofDraft (d : Draft) : Effective where
  level := d.level.getD "warn"
  json := d.json.getD false
  enabled := d.enabled.getD true
  capacity := d.capacity.getD 1024
  ttlSeconds := d.ttlSeconds

end Effective

/-- Where the draft leaves something open, two others hold the same. -/
structure Draft.Hides (given d d' : Draft) : Prop where
  level : given.level = none → d.level = d'.level
  json : given.json = none → d.json = d'.json
  enabled : given.enabled = none → d.enabled = d'.enabled
  capacity : given.capacity = none → d.capacity = d'.capacity
  ttlSeconds : given.ttlSeconds = none → d.ttlSeconds = d'.ttlSeconds

/-- Settings that are the same wherever two drafts are. -/
structure Settings.Alike (given given' : Draft) (s s' : Settings) : Prop where
  level : given.level = given'.level → s.level = s'.level
  format : given.json = given'.json → s.format = s'.format
  enabled : given.enabled = given'.enabled → s.enabled = s'.enabled
  capacity : given.capacity = given'.capacity → s.capacity = s'.capacity
  ttlSeconds : given.ttlSeconds = given'.ttlSeconds → s.ttlSeconds = s'.ttlSeconds

theorem getD_or_eq {α : Type} (given below : Option α) (fallback : α) :
    (given.or below).getD fallback = prevailing given below fallback := by
  cases given with
  | none => rfl
  | some v => rfl

/-- The draft that a command makes of what the other sources hold has the values in effect. -/
theorem Command.ofDraft_overlay (raw : Draft) (c : Command) :
    Effective.ofDraft (c.overrides.overlay raw) = c.effective raw := by
  cases c with
  | render file output given =>
    simp only [Effective.ofDraft, overrides, Draft.overlay, effective, Option.orElse_eq_or,
      Option.orElse_eq_orElse, getD_or_eq]
  | filters json given =>
    simp only [Effective.ofDraft, overrides, Draft.overlay, effective, Option.orElse_eq_or,
      Option.orElse_eq_orElse, getD_or_eq, Option.none_or]

theorem Settings.checkLevel_eq (level : Option String) :
    checkLevel level =
      match Level.ofText? (level.getD "warn") with
      | some l => .ok l
      | none => .error (.invalid "logging.level" levelReason) := by
  cases level with
  | none =>
    have hwarn : Level.ofText? "warn" = some .warn := by decide +kernel
    simp [checkLevel, hwarn]
  | some s => rfl

namespace Effective

theorem checked_ofDraft (d : Draft) : Checked (ofDraft d) (Settings.ofDraft d) := by
  unfold Settings.ofDraft
  rw [Settings.checkLevel_eq]
  cases hl : Level.ofText? (d.level.getD "warn") with
  | none => exact .level hl
  | some level =>
    simp only [Settings.checkCapacity]
    by_cases hc : d.capacity.getD 1024 = 0
    · rw [if_pos hc]
      exact .capacity hl hc
    · rw [if_neg hc]
      simp only [Settings.checkTtl]
      by_cases ht : d.ttlSeconds = some 0
      · rw [if_pos ht]
        exact .ttlSeconds hl hc ht
      · rw [if_neg ht]
        exact .valid ⟨by simp [ofDraft, hl], hc, ht⟩ ⟨hl, rfl, rfl, rfl, rfl⟩

namespace Checked

variable {v : Effective} {r : Except LoadError Settings}

theorem ok_iff (h : Checked v r) : (∃ s, r = .ok s) ↔ v.Valid := by
  cases h with
  | level h => exact ⟨nofun, fun hv => by simpa [h] using hv.level⟩
  | capacity _ h => exact ⟨nofun, fun hv => absurd h hv.capacity⟩
  | ttlSeconds _ _ h => exact ⟨nofun, fun hv => absurd h hv.ttlSeconds⟩
  | valid hv _ => exact ⟨fun _ => hv, fun _ => ⟨_, rfl⟩⟩

theorem carried {s : Settings} (h : Checked v (.ok s)) : v.Carried s := by
  cases h with
  | valid _ hs => exact hs

theorem error_iff (h : Checked v r) {e : LoadError} :
    r = .error e ↔ v.violations.head? = some e := by
  cases h with
  | level h => simp [violations, h]
  | capacity hl h => simp [violations, hl, h]
  | ttlSeconds hl hc h => simp [violations, hl, hc, h]
  | valid hv _ =>
    obtain ⟨level, hl⟩ := Option.isSome_iff_exists.mp hv.level
    simp [violations, hl, hv.capacity, hv.ttlSeconds]

end Checked

/-- A setting depends on nothing that the overrides hold for other settings. -/
theorem Carried.alike {given given' raw : Draft} {s s' : Settings}
    (h : (ofDraft (given.overlay raw)).Carried s)
    (h' : (ofDraft (given'.overlay raw)).Carried s') : Settings.Alike given given' s s' where
  level e := by
    have hlevel := h.level
    simp only [ofDraft, Draft.overlay, e] at hlevel
    exact Option.some.inj (hlevel.symm.trans h'.level)
  format e := by
    have hjson : (ofDraft (given.overlay raw)).json = (ofDraft (given'.overlay raw)).json := by
      simp only [ofDraft, Draft.overlay, e]
    rw [h.format, h'.format, hjson]
  enabled e := by
    rw [h.enabled, h'.enabled]
    simp only [ofDraft, Draft.overlay, e]
  capacity e := by
    rw [h.capacity, h'.capacity]
    simp only [ofDraft, Draft.overlay, e]
  ttlSeconds e := by
    rw [h.ttlSeconds, h'.ttlSeconds]
    simp only [ofDraft, Draft.overlay, e]

end Effective

theorem Draft.Hides.overlay_eq {given d d' : Draft} (h : given.Hides d d') :
    given.overlay d = given.overlay d' := by
  have field : ∀ {α : Type} {g a b : Option α}, (g = none → a = b) → (g <|> a) = (g <|> b) := by
    intro α g a b hab
    cases g with
    | none => simpa using hab rfl
    | some v => rfl
  simp only [overlay, field h.level, field h.json, field h.enabled, field h.capacity,
    field h.ttlSeconds]

/-- The settings of a command that runs over what the other sources hold. -/
def Command.settings (c : Command) (raw : Draft) : Except LoadError Settings :=
  Settings.ofDraft (c.overrides.overlay raw)

theorem Command.settings_checked (c : Command) (raw : Draft) :
    (c.effective raw).Checked (c.settings raw) := by
  rw [← c.ofDraft_overlay raw]
  exact Effective.checked_ofDraft _

theorem Command.settings_alike {c c' : Command} {raw : Draft} {s s' : Settings}
    (h : c.settings raw = .ok s) (h' : c'.settings raw = .ok s') :
    Settings.Alike c.overrides c'.overrides s s' := by
  have hchecked := Effective.checked_ofDraft (c.overrides.overlay raw)
  have hchecked' := Effective.checked_ofDraft (c'.overrides.overlay raw)
  rw [← settings, h] at hchecked
  rw [← settings, h'] at hchecked'
  exact hchecked.carried.alike hchecked'.carried

namespace Program

theorem load_eq_settings (w : World) (configFile : Option String) (c : Command) :
    load w ⟨configFile, c⟩ =
      (Settings.gather w.files w.environment configFile).bind c.settings := rfl

/-- A run has the settings that its command makes of what the sources say. -/
theorem load_layered (w : World) (configFile : Option String) (c : Command) :
    (∀ l : Settings.Layers, l.Found w.files w.environment configFile → l.Fits →
      (∀ raw, l.Holds raw → load w ⟨configFile, c⟩ = c.settings raw) ∧
      ((∀ raw, ¬ l.Holds raw) → load w ⟨configFile, c⟩ = .error .build)) ∧
    ((∀ l : Settings.Layers, ¬ l.Found w.files w.environment configFile) →
      load w ⟨configFile, c⟩ = .error .build) := by
  rw [load_eq_settings]
  refine ⟨fun l hfound hfits => ?_, fun hnone => ?_⟩
  · obtain ⟨hok, herror⟩ := hfound.gather_iff hfits
    refine ⟨fun raw hraw => ?_, fun hnone => ?_⟩
    · rw [(hok raw).mpr hraw]
      rfl
    · rw [herror.mpr hnone]
      rfl
  · rw [Settings.Layers.gather_eq_error hnone]
    rfl

/-- Settings are checked when all sources have been merged, and not before: only the values in
effect count, the first of them that is not valid is reported, and each override stands for one
setting. What the sources say about a setting is what the last of them says that says anything. -/
theorem load_effective (c : Command) (raw : Draft) :
    ((∃ s, c.settings raw = .ok s) ↔ (c.effective raw).Valid) ∧
    (∀ s, c.settings raw = .ok s → (c.effective raw).Carried s) ∧
    (∀ e, c.settings raw = .error e ↔ (c.effective raw).violations.head? = some e) ∧
    (∀ raw', c.overrides.Hides raw raw' → c.settings raw' = c.settings raw) ∧
    (∀ (c' : Command) s s', c.settings raw = .ok s → c'.settings raw = .ok s' →
      Settings.Alike c.overrides c'.overrides s s') ∧
    (∀ w configFile, load w ⟨configFile, c⟩ =
      (Settings.gather w.files w.environment configFile).bind c.settings) ∧
    ∀ w configFile,
      (∀ l : Settings.Layers, l.Found w.files w.environment configFile → l.Fits →
        (∀ d, l.Holds d → load w ⟨configFile, c⟩ = c.settings d) ∧
        ((∀ d, ¬ l.Holds d) → load w ⟨configFile, c⟩ = .error .build)) ∧
      ((∀ l : Settings.Layers, ¬ l.Found w.files w.environment configFile) →
        load w ⟨configFile, c⟩ = .error .build) := by
  have hchecked := c.settings_checked raw
  refine ⟨hchecked.ok_iff, fun s hs => (hs ▸ hchecked).carried, fun e => hchecked.error_iff,
    fun raw' hides => ?_, fun c' s s' hs hs' => Command.settings_alike hs hs', fun w configFile =>
      load_eq_settings w configFile c, fun w configFile => load_layered w configFile c⟩
  rw [Command.settings, Command.settings, hides.overlay_eq]

/-- A file sets a level and a capacity that are not valid, and so does a variable for the level,
which hides the one of the file. For a page both are hidden; a command that lists filters cannot
hide the capacity. -/
theorem load_effective_hidden :
    ∃ (w : World) (l : Settings.Layers), l.Found w.files w.environment none ∧ l.Fits ∧
      l.Holds { level := some "loud", capacity := some 0, ttlSeconds := some 30 } ∧
      Settings.gather w.files w.environment none =
        .ok { level := some "loud", capacity := some 0, ttlSeconds := some 30 } ∧
      load w ⟨none, .render "page.toml" none { level := some "info", capacity := some 8 }⟩ =
        .ok ⟨.info, .compact, true, 8, some 30⟩ ∧
      load w ⟨none, .filters false { level := some "info", capacity := some 8 }⟩ =
        .error (.invalid "cache.capacity" "must be greater than zero and fit in usize") := by
  obtain ⟨bytes, source, hread, hrange, hfits, hholds⟩ : ∃ bytes source,
      Toml.read (Text.decode bytes) = some (.table source) ∧ Data.fieldsInRange source = true ∧
      Settings.Layers.Fits ⟨source, [], [], [("logging.level", .text "loud")]⟩ ∧
      Settings.Layers.Holds ⟨source, [], [], [("logging.level", .text "loud")]⟩
        { level := some "loud", capacity := some 0, ttlSeconds := some 30 } := by
    obtain ⟨bytes, h⟩ : ∃ bytes, (Toml.read (Text.decode bytes)).any (fun d =>
        decide (d.isTable = true ∧ Data.fieldsInRange d.tableFields = true ∧
          Settings.Layers.Fits ⟨d.tableFields, [], [], [("logging.level", .text "loud")]⟩ ∧
          Settings.Layers.Holds ⟨d.tableFields, [], [], [("logging.level", .text "loud")]⟩
            { level := some "loud", capacity := some 0, ttlSeconds := some 30 })) = true :=
      ⟨"[logging]\nlevel = \"chatty\"\n[cache]\ncapacity = 0\ndefault_ttl_seconds = 30".toUTF8,
        by decide +kernel⟩
    obtain ⟨d, hread, hd⟩ := (Option.any_eq_true _ _).mp h
    obtain ⟨htable, hrange, hfits, hholds⟩ := of_decide_eq_true hd
    rw [Data.eq_table_of_isTable htable] at hread
    exact ⟨bytes, d.tableFields, hread, hrange, hfits, hholds⟩
  obtain ⟨w, hfound⟩ : ∃ w : World,
      Settings.Layers.Found ⟨source, [], [], [("logging.level", .text "loud")]⟩ w.files
        w.environment none :=
    ⟨⟨fun path => if path = "config/default.toml" then some bytes else none,
      [("MASON_FILTER__LOGGING__LEVEL", "loud")], "n"⟩,
      .found rfl hread hrange, .missing rfl rfl, nofun, fun _ => rfl, rfl⟩
  refine ⟨w, _, hfound, hfits, hholds, ((hfound.gather_iff hfits).1 _).mpr hholds, ?_, ?_⟩
  · obtain ⟨hok, hcarried, _, _, _, _, hlayered⟩ := load_effective
      (.render "page.toml" none { level := some "info", capacity := some 8 })
      { level := some "loud", capacity := some 0, ttlSeconds := some 30 }
    obtain ⟨s, hs⟩ := hok.mpr ⟨by decide +kernel, by decide, by decide⟩
    obtain ⟨hlevel, hformat, henabled, hcapacity, httl⟩ := hcarried s hs
    have hinfo : Level.ofText? "info" = some .info := by decide +kernel
    rw [((hlayered w none).1 _ hfound hfits).1 _ hholds, hs]
    obtain ⟨level, format, enabled, capacity, ttlSeconds⟩ := s
    cases hinfo.symm.trans hlevel
    cases hformat
    cases henabled
    cases hcapacity
    cases httl
    rfl
  · obtain ⟨_, _, herror, _, _, _, hlayered⟩ := load_effective
      (.filters false { level := some "info", capacity := some 8 })
      { level := some "loud", capacity := some 0, ttlSeconds := some 30 }
    rw [((hlayered w none).1 _ hfound hfits).1 _ hholds]
    exact (herror _).mpr (by decide +kernel)

end Program

end PageFilters
