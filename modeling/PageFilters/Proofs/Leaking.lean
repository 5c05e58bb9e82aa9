import PageFilters.Proofs.Occurrence
import PageFilters.Proofs.Serving

namespace PageFilters

def Rewrite.name : Rewrite → String
  | trim => "Trim"
  | noBlankLines => "NoBlankLines"
  | htmlEscape => "HtmlEscape"
  | uriEscape => "UriEscape"
  | htmlPara => "HtmlPara"

namespace Kind

/-- A filter of the kind. Caches share one key. -/
def item : Kind → Item
  | rewrite r => .rewrite r
  | repeated => .repeated 1
  | cached => .cached "k" none
  | deferred => .deferred

def call : Kind → FilterCall
  | rewrite r => ⟨r.name, []⟩
  | repeated => ⟨"Repeat", [.integer 1]⟩
  | cached => ⟨"Cache", [.text "k"]⟩
  | deferred => ⟨"Defer", []⟩

/-- A block with filters of these kinds and no words. -/
def block (ks : List Kind) : Block := { filters := ks.map call }

theorem kind_item (k : Kind) : k.item.kind = k := by
  cases k <;> rfl

theorem item_ne_never (k : Kind) : k.item ≠ .repeated 0 := by
  cases k <;> simp [item]

theorem map_kind_item (ks : List Kind) : (ks.map item).map Item.kind = ks := by
  rw [List.map_map]
  exact List.map_id'' kind_item ks

theorem item?_call (k : Kind) : Standard.item? k.call.name k.call.args = some k.item := by
  cases k with
  | rewrite r => cases r <;> rfl
  | repeated => rfl
  | cached => rfl
  | deferred => rfl

theorem items?_block (ks : List Kind) : (block ks).items? = some (ks.map item) := by
  have hcalls : (block ks).calls = ks.map fun k => .named k.call.name k.call.args := by
    simp [Block.calls, block, Function.comp_def]
  have hlists : (block ks).calls.mapM Call.items? = some (ks.map fun k => [k.item]) := by
    rw [hcalls]
    induction ks with
    | nil => rfl
    | cons k ks ih =>
      have hrest := ih (by simp [Block.calls, block, Function.comp_def])
      simp only [List.map_cons, List.mapM_cons, Call.items?, item?_call, hrest]
      rfl
  rw [Block.items?, hlists, Option.map_some, ← List.flatMap_def]
  exact congrArg some List.map_eq_flatMap.symm

end Kind

namespace Line

/-- A content that has run takes one end of a marker away at most. -/
theorem count_le_fill {nonce : String} (hn : Ordinary nonce.toList) (k : Nat)
    (words buffer : String) :
    buffer.toList.count Marker.opening ≤
      (fill nonce k words buffer).toList.count Marker.opening + 1 := by
  unfold fill Text.substituteFirst Text.replaceFirst
  cases hcut : Text.cutFirst (Marker.numbered nonce k).text.toList buffer.toList with
  | none => simp
  | some parts =>
    obtain ⟨before, after⟩ := parts
    have hone : (Marker.numbered nonce k).text.toList.count Marker.opening = 1 := by
      have hbody := (Marker.bodyChars_ordinary hn k).1
      have hclosing : Marker.opening ∉ [Marker.closing] := by decide
      rw [Marker.numbered_toList, List.count_cons_self, List.count_append,
        List.count_eq_zero.mpr hbody, List.count_eq_zero.mpr hclosing]
    rw [Text.cutFirst_eq_append hcut]
    simp only [Option.map_some, Option.getD_some, String.toList_ofList, List.count_append, hone]
    omega

/-- There are this many ends of markers in the buffer at least. -/
def Ends (m : Nat) (_ : Line) (buffer : String) : Prop := m ≤ buffer.toList.count Marker.opening

/-- There are more ends of markers in the buffer than markers that a drain can take away. -/
def Overfull (q : Line) (buffer : String) : Prop := q.weight < buffer.toList.count Marker.opening

end Line

theorem Cache.holds_true (cache : Cache) : cache.Holds fun _ => True := by
  cases cache with
  | null => trivial
  | memory m => exact fun _ _ => trivial

theorem Leaves.all {V : String → Prop} {nonce : String} {s s' : State} {q : Line}
    (h : Leaves V nonce s q s') : Leaves (fun _ => True) nonce s q s' :=
  { h with ready := ⟨h.ready.filters, h.ready.markers, h.ready.unfinished, s'.cache.holds_true⟩ }

theorem Storable.rewrite {V : String → Prop} {nonce text : String} {is : List Item}
    (h : Storable V nonce text is) (r : Rewrite) : Storable V nonce text (.rewrite r :: is) := by
  intro key ttl js hjs
  rcases List.suffix_cons_iff.mp hjs with heq | hsuffix
  · cases heq
  · exact h key ttl js hsuffix

theorem Storable.all (nonce text : String) (is : List Item) :
    Storable (fun _ => True) nonce text is :=
  fun _ _ _ _ _ _ _ => trivial

theorem lasts_overfull {nonce : String} (hn : Ordinary nonce.toList) :
    Lasts (fun _ => True) nonce Line.Overfull where
  storable := fun {_ c _ _} _ => .all nonce c.text c.items
  step := by
    intro k c q buffer words q' h houtcome
    have hfill := Line.count_le_fill hn k words buffer
    have hweight := houtcome.weight_le
    have hself : Line.weight ((k, c) :: q) = 1 + Item.defers c.items + Line.weight q := by
      simp [Line.weight, Wrapped.weight]
    rw [Line.Overfull, hself] at h
    rw [Line.Overfull, Line.weight_append]
    omega

theorem lasts_foreign {nonce other : String} (hn : Ordinary nonce.toList)
    (ho : Ordinary other.toList) (hne : nonce ≠ other) {ps : List Piece} (plain : Piece.Plain ps) :
    Lasts (fun _ => True) nonce (fun _ buffer => buffer = Piece.raw other ps) where
  storable := fun {_ c _ _} _ => .all nonce c.text c.items
  step := by
    rintro k c q buffer words q' rfl _
    rw [Line.fill, Piece.substituteFirst_raw_other hn ho words plain fun e => absurd e hne]
    rfl

/-- A marker comes out of filters that emit one, if what they cache is free of markers. -/
theorem Outcome.opening_mem {V : String → Prop} {nonce text : String} {is : List Item}
    {words : String} {q : Line} (hs : Kind.Sealed (is.map Item.kind))
    (he : Kind.Emits (is.map Item.kind)) (hpos : .repeated 0 ∉ is)
    (h : Outcome V nonce text is words q) : Marker.opening ∈ words.toList := by
  induction h with
  | plain => exact absurd he id
  | rewrite h ih =>
    exact Rewrite.opening_mem_apply he.1 (ih hs he.2 fun hm => hpos (List.mem_cons_of_mem _ hm))
  | never => exact absurd List.mem_cons_self hpos
  | again h h' ih ih' =>
    rw [String.toList_append]
    exact List.mem_append_left _ (ih hs he fun hm => hpos (List.mem_cons_of_mem _ hm))
  | hit h => exact absurd he hs.1
  | miss h ih => exact absurd he hs.1
  | later k => simp [Marker.numbered_toList]

/-- The cache has a value under the key in front, and it never expires. -/
def Cache.Answers (key value : String) : Cache → Prop
  | .memory m =>
    ∃ f fs, m.fragments = f :: fs ∧ f.key = key ∧ f.value = value ∧ f.deadline = none
  | .null => False

namespace State

theorem cacheSet_answers {s : State} {capacity : Nat}
    (h : s.cache.setup? = some (capacity + 1, none)) (key value : String) :
    (s.cacheSet key value none).cache.Answers key value := by
  obtain ⟨hc, _⟩ | ⟨m, hc, hset⟩ := s.cacheSet_cases key value none
  · simp [hc, Cache.setup?] at h
  · obtain ⟨hcapacity, httl⟩ : m.capacity = capacity + 1 ∧ m.defaultTtl = none := by
      simpa [hc, Cache.setup?] using h
    rw [hset, MemoryCache.set_snd, hcapacity, List.take_succ_cons]
    exact ⟨_, _, rfl, rfl, rfl, by simp [MemoryCache.stored, httl]⟩

theorem cacheGet_answers {s : State} {key value : String} (h : s.cache.Answers key value) :
    ∃ s', s.cacheGet key = (some value, s') ∧ s'.request = s.request ∧
      s'.cache.Answers key value := by
  obtain ⟨hc, _⟩ | ⟨m, event, hc, hget⟩ := s.cacheGet_cases key
  · simp [hc, Cache.Answers] at h
  · rw [hc] at h
    obtain ⟨f, fs, hfs, rfl, rfl, hf⟩ := h
    have hfind : m.find? f.key = some f := by simp [MemoryCache.find?, hfs]
    obtain ⟨hnone, _⟩ | ⟨g, hg, hexpired, _⟩ | ⟨g, hg, _, hhit⟩ := m.get_cases f.key
    · simp [hfind] at hnone
    · rw [hfind] at hg
      cases hg
      simp [Fragment.isExpired, hf] at hexpired
    · rw [hfind] at hg
      cases hg
      rw [hhit] at hget
      exact ⟨_, hget, rfl, _, _, rfl, rfl, rfl, hf⟩

end State

/-- A page whose blocks leave an end of a marker for good shows it. -/
theorem Document.serve_leak {d : Document} {cache : Cache} {nonce : String} {q : Line} {s : State}
    {V : String → Prop} {Good : Line → String → Prop}
    (hrun : Block.renderAll (.ofFuel d.fuel) 0 d.blocks (.fresh .standard cache nonce) =
      some (.ok (), s))
    (lasts : Lasts V nonce Good) (h : Underway V nonce Good q s) (hf : q.weight + 1 < d.fuel)
    (hbad : ∀ text, Good [] text → Marker.opening ∈ text.toList) :
    ∃ text cache', cache.serve [(nonce, d)] = some ([.ok text], cache') ∧
      Marker.opening ∈ text.toList := by
  obtain ⟨text, s', hfinish, htext, _⟩ := h.finish lasts d.fuel hf
  refine ⟨s.request.output ++ text, s'.cache, ?_, ?_⟩
  · have hrender := Document.render_finish hrun hfinish
    simp only [Cache.serve, hrender, Option.bind_eq_bind, Option.bind_some]
    rfl
  · rw [String.toList_append]
    exact List.mem_append_right _ (hbad text htext)

namespace Kind

/-- A page with these filters over and over. -/
def page (n : Nat) (ks : List Kind) : Document := ⟨List.replicate n (block ks)⟩

/-- A page with these filters only shows an end of a marker. -/
def Leaks (clock : Clock) (nonce : String) (ks : List Kind) : Prop :=
  ∃ n text cache, ((CacheConfig.mk true 1 none).build clock).serve [(nonce, page n ks)] =
    some ([.ok text], cache) ∧ Marker.opening ∈ text.toList

theorem render_block (e : Engine) (index : Nat) (ks : List Kind) {s s' : State} {words : String}
    (hs : s.request.filters = .standard)
    (hrun : e.runContent (Filter.compose ((ks.map item).map Item.filter) (.literal "")) s =
      some (.ok words, s')) :
    (block ks).render e index s = some (.ok (), s'.print words) := by
  have hresolve : (block ks).resolve s.request.filters = .ok ((ks.map item).map Item.filter) := by
    rw [hs]
    exact Block.resolve_of_items (items?_block ks)
  exact Block.render_print hresolve hrun rfl

theorem countDefers_block (ks : List Kind) :
    Call.countDefers 1 (block ks).calls = Item.defers (ks.map item) := by
  have hitems := Block.items_eq (items?_block ks)
  rw [← hitems]
  exact Block.countDefers_eq (by rw [hitems, items?_block])

theorem fuel_page (n : Nat) (ks : List Kind) :
    (page n ks).fuel = n * Item.defers (ks.map item) + 3 := by
  have htotal : Block.totalDefers (List.replicate n (block ks)) =
      n * Item.defers (ks.map item) := by
    induction n with
    | zero => rw [Nat.zero_mul]; rfl
    | succ n ih =>
      rw [List.replicate_succ, Block.totalDefers, countDefers_block, ih, Nat.succ_mul, Nat.add_comm]
  rw [Document.fuel, page, htotal]

/-- A fresh request over a cache with room for one value. -/
def blank (clock : Clock) (nonce : String) : State :=
  .fresh .standard ((CacheConfig.mk true 1 none).build clock) nonce

variable {clock : Clock}

theorem ready_blank (V : String → Prop) (nonce : String) : Ready V nonce (blank clock nonce) :=
  ⟨rfl, ⟨0, rfl⟩, rfl, fun _ hf => absurd hf List.not_mem_nil⟩

theorem underway_blank (V : String → Prop) (nonce : String) :
    Underway V nonce (fun _ _ => True) [] (blank clock nonce) where
  ready := ready_blank V nonce
  stands := .nil
  good := trivial

theorem leaks_of_torn {nonce : String} (hn : Ordinary nonce.toList) {r : Rewrite} {ks : List Kind}
    (hr : r ≠ .uriEscape) (he : Emits ks) (torn : ¬ r.Spares nonce) (hs : Sealed ks)
    (hu : Untorn nonce ks) : Leaks clock nonce (.rewrite r :: ks) := by
  have hplain : Ordinary ("" : String).toList := ordinary_nil
  rw [← map_kind_item ks] at hs he hu
  obtain ⟨words, q, s, hrun, houtcome, hleaves⟩ :=
    run_outcome (Engine.ofFuel (page 1 (.rewrite r :: ks)).fuel)
      ((storable_of_sealed hplain hs hu).rewrite r) (ready_blank _ nonce)
  have hweight : q.weight ≤ Item.defers (ks.map item) := houtcome.weight_le
  cases houtcome with
  | rewrite h =>
    have hopen := h.opening_mem hs he (by simp [item_ne_never])
    obtain ⟨_, ps, rfl, plain, _⟩ := h.covered hplain hs hu
    obtain ⟨other, hother, hordinary, hraw⟩ := Rewrite.exists_renonce hr nonce
    obtain ⟨qs, happly, hqs, _⟩ := hraw ps plain
    -- The markers leave under another nonce, so that no drain finds them.
    have hne : nonce ≠ other := fun e => torn (hother.mp e.symm)
    have hkeep := Rewrite.opening_mem_apply hr hopen
    have hunder : Underway (fun _ => True) nonce (fun _ buffer => buffer = Piece.raw other qs) q
        (s.print (r.apply (Piece.raw nonce ps))) :=
      (underway_blank _ nonce).print hleaves.all (String.empty_append.trans happly)
    have hblock := render_block _ 0 (.rewrite r :: ks) rfl hrun
    have hblocks : Block.renderAll (.ofFuel (page 1 (.rewrite r :: ks)).fuel) 0
        (page 1 (.rewrite r :: ks)).blocks _ = some (.ok (), _) :=
      Block.renderAll_cons [] hblock
    have hfuel : (page 1 (.rewrite r :: ks)).fuel = 1 * Item.defers (ks.map item) + 3 :=
      fuel_page _ _
    exact ⟨1, Document.serve_leak hblocks (lasts_foreign hn (hordinary hn) hne hqs) hunder
      (by omega) (by rintro _ rfl; exact happly ▸ hkeep)⟩

theorem underway_ends {nonce words : String} {q q' : Line} {m : Nat} {s s' : State}
    (h : Underway (fun _ => True) nonce (Line.Ends m) q s)
    (hleaves : Leaves (fun _ => True) nonce s q' s') (hopen : Marker.opening ∈ words.toList) :
    Underway (fun _ => True) nonce (Line.Ends (m + 1)) (q ++ q') (s'.print words) := by
  refine h.print hleaves ?_
  have hgood : m ≤ s.request.buffer.toList.count Marker.opening := h.good
  have hone := List.count_pos_iff.mpr hopen
  rw [Line.Ends, String.toList_append, List.count_append]
  omega

theorem render_hits (e : Engine) (index n : Nat) (ks : List Kind) {nonce words : String} {q : Line}
    {m : Nat} {s : State} (hopen : Marker.opening ∈ words.toList)
    (answers : s.cache.Answers "k" words)
    (h : Underway (fun _ => True) nonce (Line.Ends m) q s) :
    ∃ s', Block.renderAll e index (List.replicate n (block (.cached :: ks))) s =
        some (.ok (), s') ∧
      Underway (fun _ => True) nonce (Line.Ends (m + n)) q s' := by
  induction n generalizing index m s with
  | zero => exact ⟨s, rfl, h⟩
  | succ n ih =>
    obtain ⟨s₁, hget, _, answers₁⟩ := State.cacheGet_answers answers
    obtain ⟨hrun, _, hleaves⟩ := run_hit e
      (Filter.compose ((ks.map item).map Item.filter) (.literal "")) none h.ready hget
    have hprint := underway_ends h hleaves hopen
    rw [List.append_nil] at hprint
    have answers₁ : (s₁.print words).cache.Answers "k" words := answers₁
    obtain ⟨s₂, hrest, h₂⟩ := ih (index + 1) answers₁ hprint
    have hblock := render_block e index (cached :: ks) h.ready.filters hrun
    refine ⟨s₂, (Block.renderAll_cons _ hblock).trans hrest, h₂.ready, h₂.stands, ?_⟩
    have hgood := h₂.good
    rw [Line.Ends] at hgood ⊢
    omega

/-- A marker in the cache leaks: it comes out more often than it was registered. -/
theorem leaks_of_unsealed {nonce : String} (hn : Ordinary nonce.toList) {ks : List Kind}
    (he : Emits ks) (hs : Sealed ks) : Leaks clock nonce (.cached :: ks) := by
  rw [← map_kind_item ks] at he hs
  generalize hc : Item.defers (ks.map item) = count
  -- The first block registers this many producers at most and stores its text. This many blocks
  -- behind it show the text and register nothing: one marker is too many for the drain.
  have hfuel : (page (count + 1) (cached :: ks)).fuel = (count + 1) * count + 3 := by
    rw [fuel_page, ← hc]
    rfl
  generalize hd : page (count + 1) (cached :: ks) = d at hfuel
  have h₀ : Underway (fun _ => True) nonce (Line.Ends 0) [] (blank clock nonce) :=
    ⟨ready_blank _ nonce, .nil, Nat.zero_le _⟩
  obtain ⟨s₀, hget⟩ : ∃ s₀, (blank clock nonce).cacheGet "k" = (none, s₀) := ⟨_, rfl⟩
  obtain ⟨words, q, s₁, hrun, houtcome, hleaves⟩ :=
    run_outcome (Engine.ofFuel d.fuel) (.all nonce "" (ks.map item)) (h₀.ready.cacheGet hget)
  have hopen := houtcome.opening_mem hs he (by simp [item_ne_never])
  have hweight := houtcome.weight_le
  obtain ⟨hrun, hleaves'⟩ := run_miss _ none hget hrun hleaves trivial
  have answers : ((s₁.cacheSet "k" words none).print words).cache.Answers "k" words := by
    have hsetup := (blank clock nonce).cacheGet_setup "k"
    rw [hget] at hsetup
    exact State.cacheSet_answers (hleaves.setup.trans hsetup) "k" words
  have h₁ := underway_ends h₀ hleaves' hopen
  rw [List.nil_append] at h₁
  obtain ⟨s₂, hhits, h₂⟩ := render_hits (Engine.ofFuel d.fuel) 1 count ks hopen answers h₁
  have hblock := render_block (Engine.ofFuel d.fuel) 0 (cached :: ks) rfl hrun
  have hblocks : Block.renderAll (.ofFuel d.fuel) 0 d.blocks (blank clock nonce) =
      some (.ok (), s₂) := by
    have happ := (Block.renderAll_cons _ hblock).trans hhits
    rw [← hd] at happ ⊢
    exact happ
  have hover : Line.Overfull q s₂.request.buffer := by
    have hgood := h₂.good
    rw [Line.Ends] at hgood
    rw [Line.Overfull]
    omega
  have hmul : count ≤ (count + 1) * count := Nat.le_mul_of_pos_left count (Nat.succ_pos count)
  refine ⟨count + 1, ?_⟩
  rw [hd]
  exact Document.serve_leak hblocks (lasts_overfull hn) ⟨h₂.ready, h₂.stands, hover⟩ (by omega)
    fun text htext => List.count_pos_iff.mp (Nat.lt_of_le_of_lt (Nat.zero_le _) htext)

/-- Filters that are not sealed or tear markers have a right part that leaks. -/
theorem exists_leak (clock : Clock) {nonce : String} (hn : Ordinary nonce.toList) {ks : List Kind}
    (h : ¬ (Sealed ks ∧ Untorn nonce ks)) : ∃ js, js <:+ ks ∧ Leaks clock nonce js := by
  induction ks with
  | nil => exact absurd ⟨trivial, trivial⟩ h
  | cons k ks ih =>
    by_cases htail : Sealed ks ∧ Untorn nonce ks
    · refine ⟨k :: ks, List.suffix_rfl, ?_⟩
      cases k with
      | rewrite r =>
        have torn : ¬ (r ≠ .uriEscape → Emits ks → r.Spares nonce) :=
          fun hr => h ⟨htail.1, hr, htail.2⟩
        obtain ⟨hr, torn⟩ := Classical.not_imp.mp torn
        obtain ⟨he, torn⟩ := Classical.not_imp.mp torn
        exact leaks_of_torn hn hr he torn htail.1 htail.2
      | repeated => exact absurd htail h
      | cached =>
        have he : Emits ks := by
          by_contra hnot
          exact h ⟨⟨hnot, htail.1⟩, htail.2⟩
        exact leaks_of_unsealed hn he htail.1
      | deferred => exact absurd htail h
    · obtain ⟨js, hsuffix, hleak⟩ := ih htail
      exact ⟨js, hsuffix.trans (List.suffix_cons k ks), hleak⟩

end Kind

end PageFilters
