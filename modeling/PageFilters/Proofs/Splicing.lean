import PageFilters.FilterSpec
import PageFilters.Proofs.Edits
import PageFilters.Proofs.Entries
import PageFilters.Proofs.Twins

namespace PageFilters

namespace PipeList

variable {a b : String}

theorem entries_joined (a b : String) : entries (a ++ "," ++ b) = entries a ++ entries b := by
  have hlist : (a ++ "," ++ b).toList = a.toList ++ ',' :: b.toList := by simp
  rw [entries, hlist, List.splitOn, List.splitOnP_append_cons _ _ (by decide), List.map_append]
  rfl

theorem not_blank_joined (a b : String) : Text.isBlank (a ++ "," ++ b).toList = false := by
  have hcomma : Text.isSpace ',' = false := by decide
  simp [Text.isBlank, hcomma]

/-- Two lists behind each other hold the names of both. -/
theorem parse_joined_ok_iff (ha : Text.isBlank a.toList = false)
    (hb : Text.isBlank b.toList = false) {names : List String} :
    parse (a ++ "," ++ b) = .ok names ↔
      ∃ as bs, parse a = .ok as ∧ parse b = .ok bs ∧ names = as ++ bs := by
  simp only [parse_ok_iff, not_blank_joined, ha, hb, Bool.false_eq_true, false_and, false_or,
    entries_joined, List.forall_mem_append]
  constructor
  · rintro ⟨⟨hleft, hright⟩, rfl⟩
    exact ⟨_, _, ⟨hleft, rfl⟩, ⟨hright, rfl⟩, rfl⟩
  · rintro ⟨_, _, ⟨hleft, rfl⟩, ⟨hright, rfl⟩, rfl⟩
    exact ⟨⟨hleft, hright⟩, rfl⟩

end PipeList

namespace Registry

variable {r : Registry} {list : String} {fs : List Filter} {error : FilterError}

/-- The error about a name in a pipe list, by the error about a call of it: an unknown name is
reported with the list. -/
def Restates (r : Registry) (list name : String) (called error : FilterError) : Prop :=
  (r.contains name = true ∧ error = called) ∨
    r.contains name = false ∧ called = .unknown name name ∧ error = .unknown name (Text.trim list)

theorem resolveIn_ok_iff {name : String} :
    r.resolveIn list name [] = .ok fs ↔ r.resolveNamed name [] = .ok fs := by
  unfold resolveNamed resolveIn
  cases r.get? name with
  | some registration => exact Iff.rfl
  | none => exact ⟨nofun, nofun⟩

theorem resolveIn_error_iff {name : String} :
    r.resolveIn (Text.trim list) name [] = .error error ↔
      ∃ called, r.resolveNamed name [] = .error called ∧ r.Restates list name called error := by
  unfold resolveNamed resolveIn Restates
  rw [contains_eq]
  cases r.get? name with
  | some registration => simp
  | none => simp [eq_comm]

theorem resolvePipe_of_refused (h : PipeList.parse list = .error error) :
    r.resolvePipe list = .error error := by
  rw [resolvePipe, h]
  rfl

theorem resolvePipe_of_parsed {names : List String} (h : PipeList.parse list = .ok names) :
    r.resolvePipe list =
      (names.mapM fun name => r.resolveIn (Text.trim list) name []).map List.flatten := by
  rw [resolvePipe, h]
  cases hm : names.mapM fun name => r.resolveIn (Text.trim list) name [] with
  | error e => simp only [bind, Except.bind, hm, Except.map]
  | ok fss => simp only [bind, Except.bind, hm, Except.map, pure, Except.pure]

/-- A pipe list resolves to what its names resolve to by themselves. -/
theorem resolvePipe_ok_iff : r.resolvePipe list = .ok fs ↔
    ∃ names fss, PipeList.parse list = .ok names ∧
      List.Forall₂ (fun name gs => r.resolveNamed name [] = .ok gs) names fss ∧
      fs = fss.flatten := by
  cases hparse : PipeList.parse list with
  | error e =>
    rw [resolvePipe_of_refused hparse]
    exact ⟨nofun, fun ⟨_, _, h, _⟩ => nomatch h⟩
  | ok names =>
    rw [resolvePipe_of_parsed hparse, map_eq_ok_iff]
    simp only [mapM_eq_ok_iff, resolveIn_ok_iff]
    constructor
    · rintro ⟨fss, hfss, hfs⟩
      exact ⟨names, fss, rfl, hfss, hfs⟩
    · rintro ⟨_, fss, hnames, hfss, hfs⟩
      cases hnames
      exact ⟨fss, hfss, hfs⟩

/-- A pipe list is refused if it does not parse, and otherwise for the first of its names that does
not resolve. -/
theorem resolvePipe_error_iff : r.resolvePipe list = .error error ↔
    PipeList.parse list = .error error ∨
    ∃ before name after called, PipeList.parse list = .ok (before ++ name :: after) ∧
      (∀ n ∈ before, ∃ gs, r.resolveNamed n [] = .ok gs) ∧
      r.resolveNamed name [] = .error called ∧ r.Restates list name called error := by
  cases hparse : PipeList.parse list with
  | error e =>
    rw [resolvePipe_of_refused hparse]
    constructor
    · exact fun h => .inl (congrArg Except.error (Except.error.inj h))
    · rintro (h | ⟨_, _, _, _, h, _⟩)
      · exact congrArg Except.error (Except.error.inj h)
      · cases h
  | ok names =>
    rw [resolvePipe_of_parsed hparse, map_eq_error_iff, mapM_eq_error_iff]
    simp only [resolveIn_ok_iff, resolveIn_error_iff]
    constructor
    · rintro ⟨before, name, after, rfl, hbefore, called, hcalled, herror⟩
      exact .inr ⟨before, name, after, called, rfl, hbefore, hcalled, herror⟩
    · rintro (h | ⟨before, name, after, called, h, hbefore, hcalled, herror⟩)
      · cases h
      · exact ⟨before, name, after, Except.ok.inj h, hbefore, called, hcalled, herror⟩

theorem resolvePipe_joined_iff {a b : String} (ha : Text.isBlank a.toList = false)
    (hb : Text.isBlank b.toList = false) : r.resolvePipe (a ++ "," ++ b) = .ok fs ↔
      ∃ gs hs, r.resolvePipe a = .ok gs ∧ r.resolvePipe b = .ok hs ∧ fs = gs ++ hs := by
  simp only [resolvePipe_ok_iff, PipeList.parse_joined_ok_iff ha hb, ← mapM_eq_ok_iff]
  constructor
  · rintro ⟨_, _, ⟨as, bs, has, hbs, rfl⟩, hfss, rfl⟩
    obtain ⟨gss, hss, hgss, hhss, rfl⟩ := mapM_append_ok_iff.mp hfss
    exact ⟨_, _, ⟨as, gss, has, hgss, rfl⟩, ⟨bs, hss, hbs, hhss, rfl⟩, List.flatten_append⟩
  · rintro ⟨_, _, ⟨as, gss, has, hgss, rfl⟩, ⟨bs, hss, hbs, hhss, rfl⟩, rfl⟩
    exact ⟨_, _, ⟨as, bs, has, hbs, rfl⟩, mapM_append_ok_iff.mpr ⟨gss, hss, hgss, hhss, rfl⟩,
      List.flatten_append.symm⟩

end Registry

/-- Nothing has happened between the states, except perhaps that slots were opened. -/
structure State.Untouched (s s' : State) : Prop where
  request : s'.request = s.request
  cache : s'.cache = s.cache
  journal : s'.journal = s.journal
  slots : ∀ name, s'.slot name = s.slot name

theorem State.untouched_resolve (s : State) (call : Call) : s.Untouched (s.resolve call).2 where
  request := resolve_keeps request (fun _ _ => rfl) s call
  cache := resolve_keeps cache (fun _ _ => rfl) s call
  journal := resolve_keeps journal (fun _ _ => rfl) s call
  slots name := resolve_keeps (slot · name) (fun s _ => s.slot_openSlot _ name) s call

namespace Engine

variable (e : Engine) {s s' : State} {list : String} {error : FilterError}

theorem act_pipe_refused (h : s.resolve (.piped list) = (.error error, s')) (text : String) :
    e.act (.pipe list text) s = some (.error (.filter error), s') := by
  rw [act, invoke, h]
  rfl

theorem runContent_pipe_refused (h : s.resolve (.piped list) = (.error error, s'))
    (text : String) :
    e.runContent (.pipe list text) s = some (.error (.filter error), s') := by
  simp only [Content.pipe, Content.filterWith, Content.renderWith, Content.lookups, Content.bind,
    Content.andThen, runContent, perform, h]
  rfl

end Engine

/-- A pipe list resolves as its names do in calls without arguments, one after the other, and is
refused for a fault in its grammar before any of its names is. A refusal leaves the request as it
is. Two lists joined by a comma resolve if both do, and render as the one around the other. -/
theorem Registry.resolvePipe_agrees (r : Registry) :
    (∀ list fs, r.resolvePipe list = .ok fs ↔
      ∃ names fss, PipeList.parse list = .ok names ∧
        List.Forall₂ (fun name gs => r.resolveNamed name [] = .ok gs) names fss ∧
        fs = fss.flatten) ∧
    (∀ list error, r.resolvePipe list = .error error ↔
      PipeList.parse list = .error error ∨
      ∃ before name after called, PipeList.parse list = .ok (before ++ name :: after) ∧
        (∀ n ∈ before, ∃ gs, r.resolveNamed n [] = .ok gs) ∧
        r.resolveNamed name [] = .error called ∧ r.Restates list name called error) ∧
    (∀ list error, r.resolvePipe list = .error error →
      ∀ (e : Engine) (s : State) (text : String), s.request.filters = r →
        ∃ s', e.act (.pipe list text) s = some (.error (.filter error), s') ∧
          e.runContent (.pipe list text) s = some (.error (.filter error), s') ∧
          s.Untouched s') ∧
    ∀ a b, Text.isBlank a.toList = false → Text.isBlank b.toList = false →
      ((∃ fs, r.resolvePipe (a ++ "," ++ b) = .ok fs) ↔
        (∃ gs, r.resolvePipe a = .ok gs) ∧ ∃ hs, r.resolvePipe b = .ok hs) ∧
      ∀ fs gs hs, r.resolvePipe (a ++ "," ++ b) = .ok fs → r.resolvePipe a = .ok gs →
        r.resolvePipe b = .ok hs → ∀ (e : Engine) (c : Content) (s : State),
          e.runContent (Filter.compose fs c) s =
            e.runContent (Filter.compose gs (Filter.compose hs c)) s := by
  refine ⟨fun _ _ => resolvePipe_ok_iff, fun _ _ => resolvePipe_error_iff, ?_, ?_⟩
  · rintro list error h e s text rfl
    have hresolve : s.resolve (.piped list) = (.error error, (s.resolve (.piped list)).2) :=
      Prod.ext h rfl
    exact ⟨_, e.act_pipe_refused hresolve text, e.runContent_pipe_refused hresolve text,
      s.untouched_resolve _⟩
  · intro a b ha hb
    constructor
    · simp only [resolvePipe_joined_iff ha hb]
      constructor
      · rintro ⟨_, gs, hs, hgs, hhs, _⟩
        exact ⟨⟨gs, hgs⟩, hs, hhs⟩
      · rintro ⟨⟨gs, hgs⟩, hs, hhs⟩
        exact ⟨_, gs, hs, hgs, hhs, rfl⟩
    · intro fs gs hs hfs hgs hhs e c s
      obtain ⟨gs', hs', hgs', hhs', rfl⟩ := (resolvePipe_joined_iff ha hb).mp hfs
      rw [hgs] at hgs'
      rw [hhs] at hhs'
      cases hgs'
      cases hhs'
      rw [Filter.compose, List.foldr_append]
      rfl

/-- A name that stands for two filters, one that no call satisfies, and one that is unknown. A fault
in the grammar at the end of a list comes before all of them. -/
theorem Registry.resolvePipe_agrees_mixed :
    let r := (({} : Registry).register "Pair" "" fun _ => .ok [.repeated 2, .deferred]).register
      "Picky" "" fun _ => .error (.invalidArgument "Picky" "never")
    (∃ s', (Engine.ofFuel 1).act (.pipe " Pair,Nope,Picky" "x")
        { request := { filters := r, markers := .listed [] 0 } } =
          some (.error (.filter (.unknown "Nope" "Pair,Nope,Picky")), s') ∧
      State.Untouched { request := { filters := r, markers := .listed [] 0 } } s') ∧
    r.resolvePipe "Picky,Nope" = .error (.invalidArgument "Picky" "never") ∧
    r.resolvePipe "Picky,Nope,Pair(2)" = .error (.invalidArgument "Pair"
      "pipe filter list `Picky,Nope,Pair(2)` does not accept arguments") ∧
    ∃ fs, r.resolvePipe "Pair, Pair" = .ok fs ∧ ∀ (e : Engine) (c : Content) (s : State),
      e.runContent (Filter.compose fs c) s = e.runContent (Filter.compose [.repeated 2, .deferred]
        (Filter.compose [.repeated 2, .deferred] c)) s := by
  intro r
  have hpair : r.resolveNamed "Pair" [] = .ok [.repeated 2, .deferred] := by
    simp [r, resolveNamed, resolveIn, register, get?_insert]
  have hpicky : r.resolveNamed "Picky" [] = .error (.invalidArgument "Picky" "never") := by
    simp [r, resolveNamed, resolveIn, register, get?_insert]
  have hnope : r.get? "Nope" = none := by
    have hempty : ({} : Registry).get? "Nope" = none := rfl
    simp [r, register, get?_insert, hempty]
  have agrees := r.resolvePipe_agrees
  refine ⟨?_, ?_, ?_, ?_⟩
  · have hrefused : r.resolvePipe " Pair,Nope,Picky" =
        .error (.unknown "Nope" "Pair,Nope,Picky") := by
      refine (agrees.2.1 _ _).mpr (.inr ⟨["Pair"], "Nope", ["Picky"], .unknown "Nope" "Nope", ?_⟩)
      refine ⟨by decide +kernel, fun n hn => ?_, ?_, .inr ⟨?_, rfl, rfl⟩⟩
      · exact List.mem_singleton.mp hn ▸ ⟨_, hpair⟩
      · rw [resolveNamed, resolveIn, hnope]
      · rw [contains_eq, hnope]
        rfl
    obtain ⟨s', hact, _, huntouched⟩ := agrees.2.2.1 _ _ hrefused (.ofFuel 1)
      { request := { filters := r, markers := .listed [] 0 } } "x" rfl
    exact ⟨s', hact, huntouched⟩
  · refine (agrees.2.1 _ _).mpr (.inr ⟨[], "Picky", ["Nope"], _, by decide +kernel,
      fun _ h => absurd h List.not_mem_nil, hpicky, .inl ⟨?_, rfl⟩⟩)
    simp [r, contains_eq, register, get?_insert]
  · exact (agrees.2.1 _ _).mpr (.inl (by decide +kernel))
  · have hjoined := agrees.2.2.2 "Pair" " Pair" (by decide) (by decide)
    have hone : ∀ list, PipeList.parse list = .ok ["Pair"] →
        r.resolvePipe list = .ok [.repeated 2, .deferred] := fun list hlist =>
      (agrees.1 list _).mpr ⟨["Pair"], [_], hlist, .cons hpair .nil, rfl⟩
    have hleft := hone "Pair" (by decide +kernel)
    have hright := hone " Pair" (by decide +kernel)
    obtain ⟨fs, hfs⟩ := hjoined.1.mpr ⟨⟨_, hleft⟩, _, hright⟩
    exact ⟨fs, hfs, hjoined.2 fs _ _ hfs hleft hright⟩

end PageFilters
