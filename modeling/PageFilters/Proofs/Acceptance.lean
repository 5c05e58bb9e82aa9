import PageFilters.Proofs.Fuel
import PageFilters.Proofs.PipeLists
import PageFilters.Proofs.Serving
import PageFilters.Proofs.Working

namespace PageFilters

/-- The filters that take no arguments. -/
def Standard.plainNames : List String :=
  ["Trim", "NoBlankLines", "Defer", "HtmlEscape", "H", "HTML", "UriEscape", "U", "URI", "HtmlPara"]

/-- A pipe list is valid if it is blank or holds names of filters without arguments. -/
def Standard.PipeValid (list : String) : Prop :=
  ∃ names, PipeList.Writes list names ∧ ∀ name ∈ names, name ∈ plainNames

inductive FilterCall.Valid : FilterCall → Prop
  | plain {name : String} (h : name ∈ Standard.plainNames) : Valid ⟨name, []⟩
  | repeated {n : Int} (h : 0 ≤ n) : Valid ⟨"Repeat", [.integer n]⟩
  | cached {key : Argument} (h : key ≠ .text "") : Valid ⟨"Cache", [key]⟩
  | expiring {key : Argument} {seconds : Int} (h : key ≠ .text "") (hs : 0 < seconds) :
      Valid ⟨"Cache", [key, .integer seconds]⟩

def Block.Valid (b : Block) : Prop :=
  (∀ list, b.pipe = some list → Standard.PipeValid list) ∧ ∀ call ∈ b.filters, call.Valid

/-- What an invalid block is refused for: its pipe list, or else the first of its filters that is
invalid. -/
inductive Block.Refused (b : Block) : FilterError → Prop
  | pipe {list : String} {source : FilterError} (h : b.pipe = some list)
      (invalid : ¬ Standard.PipeValid list)
      (hs : Registry.standard.resolvePipe list = .error source) : Refused b source
  | filter {before after : List FilterCall} {call : FilterCall} {source : FilterError}
      (hp : ∀ list, b.pipe = some list → Standard.PipeValid list)
      (h : b.filters = before ++ call :: after) (valid : ∀ c ∈ before, c.Valid)
      (invalid : ¬ call.Valid)
      (hs : Registry.standard.resolveNamed call.name call.args = .error source) : Refused b source

namespace Standard

theorem rewrite?_isSome_iff {name : String} : (rewrite? name).isSome = true ∨ name = "Defer" ↔
    name ∈ plainNames := by
  simp only [rewrite?, plainNames, List.mem_cons, List.not_mem_nil, or_false]
  split_ifs <;> simp only [Option.isSome_some, Option.isSome_none, Bool.false_eq_true] <;> tauto

theorem item?_nil_isSome_iff {name : String} :
    (item? name []).isSome = true ↔ name ∈ plainNames := by
  rw [← rewrite?_isSome_iff]
  unfold item?
  split_ifs with hr hc _ hd
  · subst hr
    decide
  · subst hc
    decide
  · simp [hd]
  · simp [hd]
  · simp_all

theorem cacheKey_isSome_iff {key : Argument} :
    (cacheKey key).toOption.isSome = true ↔ key ≠ .text "" := by
  unfold cacheKey
  split
  · simp [Except.toOption]
  · simp [Except.toOption]
  · simp_all [Except.toOption]

theorem cacheTtl_isSome_iff {ttl : Argument} :
    (cacheTtl ttl).toOption.isSome = true ↔
      ∃ seconds : Int, ttl = .integer seconds ∧ 0 < seconds := by
  cases ttl with
  | integer n =>
    simp only [cacheTtl, cacheTtl.refuse]
    split <;> simp_all [Except.toOption]
  | text t => simp [cacheTtl, cacheTtl.refuse, Except.toOption]

theorem repeated?_isSome_iff {args : List Argument} :
    (repeated? args).isSome = true ↔ ∃ n : Int, args = [.integer n] ∧ 0 ≤ n := by
  unfold repeated?
  split
  next n =>
    split
    next hn => exact ⟨nofun, fun ⟨m, hm, hle⟩ => by cases hm; omega⟩
    next hn => exact ⟨fun _ => ⟨n, rfl, by omega⟩, fun _ => rfl⟩
  next hargs => exact ⟨nofun, fun ⟨n, hn, _⟩ => absurd hn (hargs n)⟩

theorem cached?_isSome_iff {args : List Argument} :
    (cached? args).isSome = true ↔
      (∃ key, args = [key] ∧ key ≠ .text "") ∨
      ∃ key, ∃ seconds : Int, args = [key, .integer seconds] ∧ key ≠ .text "" ∧ 0 < seconds := by
  match args with
  | [] => simp [cached?]
  | [key] => simp [cached?, cacheKey_isSome_iff]
  | [key, ttl] =>
    have hpair : (cached? [key, ttl]).isSome = true ↔
        (cacheKey key).toOption.isSome = true ∧ (cacheTtl ttl).toOption.isSome = true := by
      simp only [cached?]
      cases (cacheKey key).toOption with
      | none => simp
      | some k => cases (cacheTtl ttl).toOption <;> simp
    rw [hpair, cacheKey_isSome_iff, cacheTtl_isSome_iff]
    constructor
    · rintro ⟨hkey, seconds, rfl, hpos⟩
      exact .inr ⟨key, seconds, rfl, hkey, hpos⟩
    · rintro (⟨_, h, _⟩ | ⟨_, seconds, h, hkey, hpos⟩)
      · cases h
      · cases h
        exact ⟨hkey, seconds, rfl, hpos⟩
  | _ :: _ :: _ :: _ => simp [cached?]

/-- The calls that resolve in the standard registry are the valid ones. -/
theorem item?_isSome_iff {call : FilterCall} :
    (item? call.name call.args).isSome = true ↔ call.Valid := by
  obtain ⟨name, args⟩ := call
  constructor
  · intro h
    by_cases hr : name = "Repeat"
    · subst hr
      obtain ⟨n, rfl, hn⟩ := repeated?_isSome_iff.mp h
      exact .repeated hn
    by_cases hc : name = "Cache"
    · subst hc
      obtain ⟨key, rfl, hkey⟩ | ⟨key, seconds, rfl, hkey, hpos⟩ := cached?_isSome_iff.mp h
      · exact .cached hkey
      · exact .expiring hkey hpos
    cases args with
    | nil => exact .plain (item?_nil_isSome_iff.mp h)
    | cons arg args => simp [item?, hr, hc] at h
  · intro h
    cases h with
    | plain h => exact item?_nil_isSome_iff.mpr h
    | repeated h => exact repeated?_isSome_iff.mpr ⟨_, rfl, h⟩
    | cached h => exact cached?_isSome_iff.mpr (.inl ⟨_, rfl, h⟩)
    | expiring h hs => exact cached?_isSome_iff.mpr (.inr ⟨_, _, rfl, h, hs⟩)

theorem items?_piped_isSome_iff {list : String} :
    (Call.piped list).items?.isSome = true ↔ PipeValid list := by
  unfold PipeValid
  simp only [Call.items?, ← PipeList.parse_eq_ok_iff]
  cases PipeList.parse list with
  | error e =>
    constructor
    · intro h
      cases h
    · rintro ⟨_, h, _⟩
      cases h
  | ok names =>
    rw [mapM_isSome_iff]
    constructor
    · intro h
      exact ⟨names, rfl, fun name hname => item?_nil_isSome_iff.mp (h name hname)⟩
    · rintro ⟨_, h, hnames⟩
      cases h
      exact fun name hname => item?_nil_isSome_iff.mpr (hnames name hname)

end Standard

theorem Registry.standard_resolve_ok_iff {call : Call} :
    (∃ fs, standard.resolve call = .ok fs) ↔ call.items?.isSome = true := by
  have hresolve := standard_resolve call
  cases h : standard.resolve call with
  | ok fs =>
    rw [h] at hresolve
    obtain ⟨items, hitems, _⟩ := Option.map_eq_some_iff.mp hresolve.symm
    exact ⟨fun _ => by rw [hitems]; rfl, fun _ => ⟨fs, rfl⟩⟩
  | error e =>
    rw [h] at hresolve
    have hnone := Option.map_eq_none_iff.mp hresolve.symm
    rw [hnone]
    exact ⟨nofun, nofun⟩

namespace Block

variable {b : Block}

/-- A block resolves in the standard registry if and only if it is valid. -/
theorem items?_isSome_iff : b.items?.isSome = true ↔ b.Valid := by
  rw [items?, Option.isSome_map, mapM_isSome_iff, Valid, calls, List.forall_mem_append]
  refine and_congr ?_ ?_
  · cases b.pipe with
    | none => simp
    | some list => simp [Standard.items?_piped_isSome_iff]
  · rw [List.forall_mem_map]
    refine forall₂_congr fun call _ => ?_
    rw [← Standard.item?_isSome_iff, Call.items?, Option.isSome_map]

theorem refused_of_resolve {source : FilterError} (h : b.resolve .standard = .error source) :
    b.Refused source := by
  have hcalls : b.calls.mapM Registry.standard.resolve = .error source := by
    unfold resolve at h
    cases hm : b.calls.mapM Registry.standard.resolve with
    | error e =>
      rw [hm] at h
      cases h
      rfl
    | ok fs =>
      rw [hm] at h
      cases h
  obtain ⟨before, call, after, hsplit, hbefore, hfails⟩ := mapM_eq_error_iff.mp hcalls
  have hinvalid : call.items?.isSome ≠ true := by
    rw [Ne, ← Registry.standard_resolve_ok_iff, hfails]
    exact fun ⟨_, h⟩ => by cases h
  -- The calls of the filters in which the one that fails is left, once the pipe list is set aside.
  have hfilter : ∀ before, (b.filters.map fun c => Call.named c.name c.args) =
      before ++ call :: after → (∀ x ∈ before, ∃ fs, Registry.standard.resolve x = .ok fs) →
      (∀ list, b.pipe = some list → Standard.PipeValid list) → b.Refused source := by
    intro before hsplit hbefore hpipe
    obtain ⟨front, rest, hfilters, rfl, hrest⟩ := List.map_eq_append_iff.mp hsplit
    obtain ⟨c, back, rfl, rfl, rfl⟩ := List.map_eq_cons_iff.mp hrest
    refine .filter hpipe hfilters (fun c' hc' => ?_) (fun hvalid => hinvalid ?_) hfails
    · have hok := Registry.standard_resolve_ok_iff.mp (hbefore _ (List.mem_map_of_mem hc'))
      rw [Call.items?, Option.isSome_map] at hok
      exact Standard.item?_isSome_iff.mp hok
    · rw [Call.items?, Option.isSome_map]
      exact Standard.item?_isSome_iff.mpr hvalid
  unfold calls at hsplit
  cases hp : b.pipe with
  | none =>
    rw [hp, Option.map_none, Option.toList_none, List.nil_append] at hsplit
    exact hfilter before hsplit hbefore fun list h => by rw [hp] at h; cases h
  | some list =>
    rw [hp, Option.map_some, Option.toList_some, List.singleton_append] at hsplit
    cases before with
    | nil =>
      obtain ⟨rfl, rfl⟩ := List.cons.inj hsplit
      exact .pipe hp (fun hvalid => hinvalid (Standard.items?_piped_isSome_iff.mpr hvalid)) hfails
    | cons first before =>
      obtain ⟨rfl, htail⟩ := List.cons.inj hsplit
      obtain ⟨hfirst, hbefore⟩ := List.forall_mem_cons.mp hbefore
      have hvalid :=
        Standard.items?_piped_isSome_iff.mp (Registry.standard_resolve_ok_iff.mp hfirst)
      refine hfilter before htail hbefore fun list' h => ?_
      rw [hp] at h
      cases h
      exact hvalid

theorem items?_of_valid (h : b.Valid) : b.items? = some b.items := by
  obtain ⟨items, hitems⟩ := Option.isSome_iff_exists.mp (items?_isSome_iff.mpr h)
  rw [b.items_eq hitems, hitems]

theorem resolve_of_invalid (h : ¬ b.Valid) :
    ∃ source, b.resolve .standard = .error source ∧ b.Refused source := by
  have hnone : b.items? = none := by
    rw [← items?_isSome_iff] at h
    simpa using h
  obtain ⟨source, hsource⟩ := b.resolve_error hnone
  exact ⟨source, hsource, refused_of_resolve hsource⟩

theorem renderAll_append {e : Engine} {index : Nat} {bs : List Block} {s s' : State}
    (h : renderAll e index bs s = some (.ok (), s')) (rest : List Block) :
    renderAll e index (bs ++ rest) s = renderAll e (index + bs.length) rest s' := by
  induction bs generalizing index s with
  | nil =>
    cases h
    rfl
  | cons b bs ih =>
    obtain ⟨⟨result, s₁⟩, hb, h⟩ := Option.bind_eq_some_iff.mp h
    cases result with
    | error error => cases h
    | ok _ =>
      rw [List.cons_append, renderAll_cons _ hb, ih h, List.length_cons, Nat.add_right_comm,
        Nat.add_assoc]

theorem renderAll_refused {e : Engine} {index : Nat} {s : State} {source : FilterError}
    (h : b.resolve s.request.filters = .error source) (rest : List Block) :
    renderAll e index (b :: rest) s = some (.error (.filter index source), s) := by
  have hb : b.render e index s = some (.error (.filter index source), s) := by
    rw [render, h]
  rw [renderAll, hb]
  rfl

theorem totalDefers_append (bs bs' : List Block) :
    totalDefers (bs ++ bs') = totalDefers bs + totalDefers bs' := by
  induction bs with
  | nil => exact (Nat.zero_add _).symm
  | cons b bs ih => rw [List.cons_append, totalDefers, totalDefers, ih, Nat.add_assoc]

end Block

/-- A discipline that asks for nothing. -/
def Discipline.free : Discipline where
  strict := False
  source _ := True
  marker _ := True
  fit _ := True
  good _ _ := True
  shown _ := True

theorem Discipline.free_lawful : free.Lawful where
  next _ _ := ⟨trivial, trivial⟩
  blank := trivial
  print _ _ _ := trivial
  turn _ _ := trivial
  found h := absurd h id
  emit _ _ := trivial

/-- A request on which nothing has happened, with any source of markers. -/
def State.initial (filters : Registry) (markers : MarkerSource) (cache : Cache) : State where
  request := { filters, markers }
  cache := cache

namespace Document

variable {d : Document} (markers : MarkerSource) (cache : Cache)

theorem paged_initial :
    Discipline.free.Paged 0 0 [] (.initial .standard markers cache) :=
  Discipline.paged_new Discipline.free_lawful trivial (fun h => absurd h id) trivial

theorem renderAll_valid {bs : List Block} {fuel : Nat}
    (hf : Block.totalDefers bs < fuel) (hbs : ∀ b ∈ bs, b.Valid) :
    ∃ total flushes load s, total = Block.totalDefers bs ∧
      Block.renderAll (.ofFuel fuel) 0 bs (.initial .standard markers cache) = some (.ok (), s) ∧
      Discipline.free.Paged total flushes load s ∧
      Discipline.free.PrintsAll bs .blank (s.sheet load) := by
  obtain ⟨load, s, hrun, hpaged, hprints⟩ := (paged_initial markers cache).blocks
    Discipline.free_lawful (fun b hb => ⟨Block.items?_of_valid (hbs b hb), trivial⟩) fuel
    (by omega) 0
  exact ⟨_, _, load, s, Nat.zero_add _, hrun, hpaged, hprints⟩

theorem render_valid (hvalid : ∀ b ∈ d.blocks, b.Valid) :
    ∃ text s, d.render d.fuel (.initial .standard markers cache) = some (.ok text, s) ∧
      ∃ sheet last, Discipline.free.PrintsAll d.blocks .blank sheet ∧
        Discipline.free.Drains sheet.load sheet.buffer last ∧ text = sheet.output ++ last := by
  have hf : Block.totalDefers d.blocks + 1 < d.fuel := by
    rw [fuel]
    omega
  obtain ⟨total, flushes, load, s, rfl, hrun, hpaged, hprints⟩ :=
    renderAll_valid markers cache (Nat.lt_of_succ_lt hf) hvalid
  obtain ⟨text, s', hfinish, ⟨last, hdrains, htext⟩, _⟩ :=
    hpaged.finish Discipline.free_lawful d.fuel hf
  exact ⟨text, s', Document.render_finish hrun hfinish, s.sheet load, last, hprints, hdrains, htext⟩

theorem render_invalid {before after : List Block} {b : Block}
    (hd : d.blocks = before ++ b :: after) (hbefore : ∀ b' ∈ before, b'.Valid)
    (hinvalid : ¬ b.Valid) :
    ∃ source load s, b.Refused source ∧
      Discipline.free.PrintsAll before .blank (s.sheet load) ∧
      load.Stands s.request.queue.pending ∧ s.request.finished = false ∧
      Block.renderAll (.ofFuel d.fuel) 0 before (.initial .standard markers cache) =
        some (.ok (), s) ∧
      d.render d.fuel (.initial .standard markers cache) =
        some (.error (.filter before.length source), s) := by
  have hf : Block.totalDefers before < d.fuel := by
    have htotal := Block.totalDefers_append before (b :: after)
    rw [← hd] at htotal
    rw [fuel]
    omega
  obtain ⟨_, _, load, s, _, hrun, hpaged, hprints⟩ := renderAll_valid markers cache hf hbefore
  obtain ⟨source, hresolve, hrefused⟩ := Block.resolve_of_invalid hinvalid
  rw [← hpaged.working.holds.filters] at hresolve
  have hall : Block.renderAll (.ofFuel d.fuel) 0 d.blocks (.initial .standard markers cache) =
      some (.error (.filter before.length source), s) := by
    rw [hd, Block.renderAll_append hrun, Nat.zero_add]
    exact Block.renderAll_refused hresolve after
  refine ⟨source, load, s, hrefused, hprints, hpaged.working.stands,
    hpaged.working.holds.unfinished, hrun, ?_⟩
  simp only [render, hall, Option.bind_eq_bind, Option.bind_some]
  rfl

/-- A page is accepted exactly if all its blocks are valid, and gives what they print and what the
last drain makes of it. Otherwise it is refused for the first block that is not, once the blocks in
front of it are rendered, and the request holds what they print. It fails in no other way. -/
theorem render_accepts (d : Document) (markers : MarkerSource) (cache : Cache) :
    ∃ r s, (∀ fuel, d.fuel ≤ fuel →
        d.render fuel (.initial .standard markers cache) = some (r, s)) ∧
      ((∃ text, r = .ok text) ↔ ∀ b ∈ d.blocks, b.Valid) ∧
      (∀ text, r = .ok text → ∃ sheet last, Discipline.free.PrintsAll d.blocks .blank sheet ∧
        Discipline.free.Drains sheet.load sheet.buffer last ∧ text = sheet.output ++ last) ∧
      ∀ error, r = .error error → ∃ before b after source load,
        d.blocks = before ++ b :: after ∧ (∀ b' ∈ before, b'.Valid) ∧ ¬ b.Valid ∧
        b.Refused source ∧ error = .filter before.length source ∧
        Discipline.free.PrintsAll before .blank (s.sheet load) ∧
        load.Stands s.request.queue.pending ∧ s.request.finished = false ∧
        ∀ fuel, d.fuel ≤ fuel →
          Block.renderAll (.ofFuel fuel) 0 before (.initial .standard markers cache) =
            some (.ok (), s) := by
  obtain hvalid | ⟨before, b, after, hd, hbefore, hinvalid⟩ :=
    forall_or_exists_first Block.Valid d.blocks
  · obtain ⟨text, s, hrender, hprints⟩ := render_valid markers cache hvalid
    refine ⟨.ok text, s, fun fuel hf => render_mono hf hrender,
      ⟨fun _ => hvalid, fun _ => ⟨text, rfl⟩⟩, fun text' htext => ?_, nofun⟩
    cases htext
    exact hprints
  · obtain ⟨source, load, s, hrefused, hprints, hstands, hunfinished, hrun, hrender⟩ :=
      render_invalid markers cache hd hbefore hinvalid
    refine ⟨_, s, fun fuel hf => render_mono hf hrender, ?_, nofun, ?_⟩
    · refine ⟨nofun, fun hvalid => absurd (hvalid b ?_) hinvalid⟩
      rw [hd]
      exact List.mem_append_right _ List.mem_cons_self
    · intro error herror
      cases herror
      exact ⟨before, b, after, source, load, hd, hbefore, hinvalid, hrefused, rfl, hprints, hstands,
        hunfinished, fun fuel hf => Block.renderAll_extends (Engine.extends_of_le hf) hrun⟩

/-- The second block has an empty cache key, so that the page is refused for it. The first one has
become output. -/
theorem render_accepts_first :
    ∃ source s, Document.render 6
      ⟨[⟨"a", some " Trim , Defer", [⟨"Repeat", [.integer 2]⟩], true⟩,
        ⟨"b", none, [⟨"Cache", [.text ""]⟩], false⟩]⟩
      (.initial .standard (.distinct "n" 0) .null) = some (.error (.filter 1 source), s) ∧
      s.request.output = "aa" := by
  obtain ⟨r, s, hrender, haccepts, _, hrefuses⟩ := render_accepts
    ⟨[⟨"a", some " Trim , Defer", [⟨"Repeat", [.integer 2]⟩], true⟩,
      ⟨"b", none, [⟨"Cache", [.text ""]⟩], false⟩]⟩ (.distinct "n" 0) .null
  have hfirst : (Block.mk "a" (some " Trim , Defer") [⟨"Repeat", [.integer 2]⟩] true).Valid :=
    Block.items?_isSome_iff.mp (by decide)
  have hsecond : ¬ (Block.mk "b" none [⟨"Cache", [.text ""]⟩] false).Valid :=
    fun h => absurd (Block.items?_isSome_iff.mpr h) (by decide)
  cases r with
  | ok text => exact absurd (haccepts.mp ⟨text, rfl⟩ _ (by simp)) hsecond
  | error error =>
    obtain ⟨before, b, after, source, _, hd, _, hinvalid, _, rfl, _⟩ := hrefuses error rfl
    have hlength : before.length = 1 := by
      match before with
      | [] =>
        cases hd
        exact absurd hfirst hinvalid
      | [_] => rfl
      | _ :: _ :: before => simp at hd
    rw [hlength] at hrender
    have hrun := hrender 6 (by decide)
    have houtput : ((Document.render 6
        ⟨[⟨"a", some " Trim , Defer", [⟨"Repeat", [.integer 2]⟩], true⟩,
          ⟨"b", none, [⟨"Cache", [.text ""]⟩], false⟩]⟩
        (.initial .standard (.distinct "n" 0) .null)).map fun out => out.2.request.output) =
          some "aa" := by
      decide +kernel
    rw [hrun] at houtput
    exact ⟨source, s, hrun, Option.some.inj houtput⟩

end Document

end PageFilters
