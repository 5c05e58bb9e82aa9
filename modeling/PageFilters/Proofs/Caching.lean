import PageFilters.Proofs.Direct
import PageFilters.Proofs.Serving

namespace PageFilters

/-- The block resolves, and renders to the text through its filters less those that defer or
cache. -/
def Block.Reads (b : Block) (text : String) : Prop :=
  b.resolve .standard = .ok (b.items.map Item.filter) ∧
    ∀ fuel s, (Filter.compose ((Item.direct b.items).map Item.filter) (.literal b.text)).run
      (fuel + 1) s = some (.ok text, s)

/-- Caches of the same key render the same when no cache is asked. -/
def Block.Consistent (blocks : List Block) : Prop :=
  ∀ b ∈ blocks, ∀ b' ∈ blocks, ∀ key ttl ttl' js js',
    .cached key ttl :: js <:+ b.items → .cached key ttl' :: js' <:+ b'.items →
    ∀ fuel s, (Filter.compose ((Item.direct js).map Item.filter) (.literal b.text)).run fuel s =
      (Filter.compose ((Item.direct js').map Item.filter) (.literal b'.text)).run fuel s

/-- The keys of the caches among the filters, with the values of what they wrap. -/
def Item.stores (text : String) : List Item → List (String × String)
  | [] => []
  | cached key _ :: is => (key, value is text) :: stores text is
  | _ :: is => stores text is

/-- The fragment holds what a cache in the blocks wraps under its key. -/
def Block.Denotes (blocks : List Block) (f : Fragment) : Prop :=
  ∃ b ∈ blocks, (f.key, f.value) ∈ Item.stores b.text b.items

theorem Item.mem_stores {text key words : String} {is : List Item} :
    (key, words) ∈ stores text is ↔
      ∃ ttl js, .cached key ttl :: js <:+ is ∧ value js text = words := by
  induction is with
  | nil => simp [stores]
  | cons i is ih =>
    cases i with
    | cached k ttl =>
      rw [stores, List.mem_cons, ih]
      constructor
      · rintro (heq | ⟨ttl', js, hjs, hwords⟩)
        · cases heq
          exact ⟨ttl, is, List.suffix_rfl, rfl⟩
        · exact ⟨ttl', js, hjs.trans (List.suffix_cons _ _), hwords⟩
      · rintro ⟨ttl', js, hjs, hwords⟩
        rcases List.suffix_cons_iff.mp hjs with heq | hjs
        · cases heq
          exact .inl (by rw [hwords])
        · exact .inr ⟨ttl', js, hjs, hwords⟩
    | rewrite r => simp [stores, ih, List.suffix_cons_iff]
    | repeated n => simp [stores, ih, List.suffix_cons_iff]
    | deferred => simp [stores, ih, List.suffix_cons_iff]

theorem Block.reads_value {b : Block} (h : b.items? = some b.items) :
    b.Reads (Item.value b.items b.text) :=
  ⟨resolve_of_items h, fun fuel s => Item.run_direct (.ofFuel fuel) b.items b.text s⟩

theorem Block.reads_unique : Relator.RightUnique Reads := by
  intro b text text' h h'
  have heq := (h.2 0 (.fresh .standard .null "")).symm.trans (h'.2 0 (.fresh .standard .null ""))
  simpa using heq

/-- Filters render the same without their caches exactly if their values agree. -/
theorem Item.run_direct_eq_iff {is js : List Item} {text text' : String} :
    (∀ fuel s, (Filter.compose ((direct is).map filter) (.literal text)).run fuel s =
      (Filter.compose ((direct js).map filter) (.literal text')).run fuel s) ↔
      value is text = value js text' := by
  constructor
  · intro h
    have heq := (run_direct (.ofFuel 0) is text (.fresh .standard .null "")).symm.trans
      ((h 1 _).trans (run_direct (.ofFuel 0) js text' _))
    simpa using heq
  · intro h fuel s
    cases fuel with
    | zero => rfl
    | succ fuel =>
      exact (run_direct (.ofFuel fuel) is text s).trans
        (h ▸ (run_direct (.ofFuel fuel) js text' s).symm)

theorem Block.consistent_iff {blocks : List Block} :
    Consistent blocks ↔ ∀ b ∈ blocks, ∀ b' ∈ blocks, ∀ c ∈ Item.stores b.text b.items,
      ∀ c' ∈ Item.stores b'.text b'.items, c.1 = c'.1 → c.2 = c'.2 := by
  unfold Consistent
  constructor
  · rintro h b hb b' hb' ⟨key, words⟩ hc ⟨key', words'⟩ hc' rfl
    obtain ⟨ttl, js, hjs, rfl⟩ := Item.mem_stores.mp hc
    obtain ⟨ttl', js', hjs', rfl⟩ := Item.mem_stores.mp hc'
    exact Item.run_direct_eq_iff.mp (h b hb b' hb' key ttl ttl' js js' hjs hjs')
  · intro h b hb b' hb' key ttl ttl' js js' hjs hjs'
    have hc : (key, Item.value js b.text) ∈ Item.stores b.text b.items :=
      Item.mem_stores.mpr ⟨ttl, js, hjs, rfl⟩
    have hc' : (key, Item.value js' b'.text) ∈ Item.stores b'.text b'.items :=
      Item.mem_stores.mpr ⟨ttl', js', hjs', rfl⟩
    exact Item.run_direct_eq_iff.mpr (h b hb b' hb' _ hc _ hc' rfl)

instance (blocks : List Block) : Decidable (Block.Consistent blocks) :=
  decidable_of_iff _ Block.consistent_iff.symm

/-- A request under way on which nothing waits, over a cache whose fragments satisfy a
condition. -/
structure Idle (P : Fragment → Prop) (s : State) : Prop where
  filters : s.request.filters = .standard
  unfinished : s.request.finished = false
  pending : s.request.queue.pending = []
  cache : s.cache.Keeps P

namespace Idle

variable {P : Fragment → Prop} {s s' : State}

theorem fresh (nonce : String) {cache : Cache} (h : cache.Keeps P) :
    Idle P (.fresh .standard cache nonce) := ⟨rfl, rfl, rfl, h⟩

theorem of_request (h : Idle P s) (hr : s'.request = s.request) (hc : s'.cache.Keeps P) :
    Idle P s' := ⟨hr ▸ h.filters, hr ▸ h.unfinished, hr ▸ h.pending, hc⟩

theorem print (h : Idle P s) (text : String) : Idle P (s.print text) :=
  ⟨h.filters, h.unfinished, h.pending, h.cache⟩

theorem flush (h : Idle P s) (fuel : Nat) :
    ∃ s', (Engine.ofFuel (fuel + 1)).flushBuffer s = some (.ok (), s') ∧ Idle P s' ∧
      s'.request.buffer = "" ∧ s'.request.output = s.request.output ++ s.request.buffer := by
  have hempty : ({ s with request.buffer := "" } : State).request.queue.pending = [] := h.pending
  exact ⟨_, Engine.flushBuffer_ok (Engine.drain_nil hempty),
    ⟨h.filters, h.unfinished, h.pending, h.cache⟩, rfl, rfl⟩

theorem finish (h : Idle P s) (fuel : Nat) :
    ∃ s', (Engine.ofFuel (fuel + 2)).finish s =
      some (.ok (s.request.output ++ s.request.buffer), s') ∧ s'.cache.Keeps P := by
  obtain ⟨s₁, hflush, hs₁, hbuffer, houtput⟩ := h.flush fuel
  have hfinish :=
    Engine.finish_ok h.unfinished (Engine.settle_done hflush hbuffer hs₁.pending)
  rw [houtput] at hfinish
  exact ⟨_, hfinish, hs₁.cache⟩

end Idle

variable {blocks : List Block}

/-- Content in filters renders its value while the cache holds nothing but values, whether the
cache answers or not. What the content stores is a value again. -/
theorem run_value (consistent : Block.Consistent blocks) (e : Engine) {b : Block}
    (hb : b ∈ blocks) {is : List Item} (his : is <:+ b.items) (hd : .deferred ∉ is) {s : State}
    (hs : s.cache.Keeps (Block.Denotes blocks)) :
    ∃ s', e.runContent (Filter.compose (is.map Item.filter) (.literal b.text)) s =
        some (.ok (Item.value is b.text), s') ∧
      s'.request = s.request ∧ s'.cache.Keeps (Block.Denotes blocks) := by
  induction is generalizing s with
  | nil => exact ⟨s, rfl, rfl, hs⟩
  | cons i is ih =>
    have ih := fun {s : State} (hs : s.cache.Keeps (Block.Denotes blocks)) =>
      ih ((List.suffix_cons i is).trans his) (fun hm => hd (List.mem_cons_of_mem i hm)) hs
    rw [List.map_cons, Filter.compose_cons]
    cases i with
    | rewrite r =>
      obtain ⟨s', hrun, hr, hc⟩ := ih hs
      refine ⟨s', ?_, hr, hc⟩
      rw [Item.filter_rewrite, Filter.ofText, Engine.runContent_simple_ok e hrun, Item.value]
    | repeated n =>
      have hinner : ∀ t : State, t.request = s.request ∧ t.cache.Keeps (Block.Denotes blocks) →
          ∃ t', e.runContent (Filter.compose (is.map Item.filter) (.literal b.text)) t =
            some (.ok (Item.value is b.text), t') ∧
              t'.request = s.request ∧ t'.cache.Keeps (Block.Denotes blocks) := by
        rintro t ⟨hr, hc⟩
        obtain ⟨t', hrun, hr', hc'⟩ := ih hc
        exact ⟨t', hrun, hr'.trans hr, hc'⟩
      obtain ⟨s', hrun, hr, hc⟩ := Item.run_repeatBody e hinner n "" ⟨rfl, hs⟩
      rw [String.empty_append] at hrun
      exact ⟨s', hrun, hr, hc⟩
    | cached key ttl =>
      have hstores : (key, Item.value is b.text) ∈ Item.stores b.text b.items :=
        Item.mem_stores.mpr ⟨ttl, is, his, rfl⟩
      have hget := s.cacheGet_keeps hs key
      have hrequest := s.cacheGet_request key
      rw [Item.filter_cached, Engine.runContent_cached]
      cases hfound : s.cacheGet key with
      | mk found s₁ =>
        rw [hfound] at hget hrequest
        cases found with
        | some hit =>
          -- Some cache of the same key stored the hit, so it is the value that would be rendered.
          obtain ⟨f, ⟨b', hb', hstored⟩, rfl, rfl⟩ := s.cacheGet_eq_some hs (by rw [hfound])
          have heq : Item.value is b.text = f.value :=
            Block.consistent_iff.mp consistent b hb b' hb' (f.key, _) hstores _ hstored rfl
          refine ⟨s₁, ?_, hrequest, hget⟩
          rw [Item.value, heq]
        | none =>
          obtain ⟨s₂, hrun, hr, hc⟩ := ih hget
          refine ⟨s₂.cacheSet key (Item.value is b.text) ttl, ?_, ?_, ?_⟩
          · simp only [hrun, Option.bind_some, Item.value]
          · exact (s₂.cacheSet_request key _ ttl).trans (hr.trans hrequest)
          · exact State.cacheSet_keeps hc (fun _ => ⟨b, hb, hstores⟩) ttl
    | deferred => exact absurd List.mem_cons_self hd

namespace Idle

variable {s : State}

/-- A block adds its value to the page, flushed or not. -/
theorem render (consistent : Block.Consistent blocks) (h : Idle (Block.Denotes blocks) s)
    {b : Block} (hb : b ∈ blocks) (hitems : b.items? = some b.items)
    (hd : .deferred ∉ b.items) (fuel index : Nat) :
    ∃ s', b.render (.ofFuel (fuel + 1)) index s = some (.ok (), s') ∧
      Idle (Block.Denotes blocks) s' ∧
      s'.request.output ++ s'.request.buffer =
        s.request.output ++ s.request.buffer ++ Item.value b.items b.text := by
  have hresolve : b.resolve s.request.filters = .ok (b.items.map Item.filter) := by
    rw [h.filters]
    exact Block.resolve_of_items hitems
  obtain ⟨s₁, hrun, hr, hc⟩ :=
    run_value consistent (.ofFuel (fuel + 1)) hb List.suffix_rfl hd h.cache
  have hprint := (h.of_request hr hc).print (Item.value b.items b.text)
  have hbuffer : (s₁.print (Item.value b.items b.text)).request.buffer =
      s.request.buffer ++ Item.value b.items b.text := by
    rw [← hr]
    rfl
  have houtput : (s₁.print (Item.value b.items b.text)).request.output = s.request.output := by
    rw [← hr]
    rfl
  by_cases hf : b.flush = true
  · obtain ⟨s₂, hflush, h₂, hempty, hout⟩ := hprint.flush fuel
    refine ⟨s₂, Block.render_flush hresolve hrun hf hflush, h₂, ?_⟩
    rw [hempty, hout, hbuffer, houtput, String.append_empty, String.append_assoc]
  · refine ⟨_, Block.render_print hresolve hrun (Bool.not_eq_true _ ▸ hf), hprint, ?_⟩
    rw [hbuffer, houtput, String.append_assoc]

theorem renderAll (consistent : Block.Consistent blocks) (h : Idle (Block.Denotes blocks) s)
    {bs : List Block} (hbs : ∀ b ∈ bs, b ∈ blocks ∧ b.items? = some b.items ∧ .deferred ∉ b.items)
    (fuel index : Nat) :
    ∃ s', Block.renderAll (.ofFuel (fuel + 1)) index bs s = some (.ok (), s') ∧
      Idle (Block.Denotes blocks) s' ∧
      s'.request.output ++ s'.request.buffer = s.request.output ++ s.request.buffer ++
        String.join (bs.map fun b => Item.value b.items b.text) := by
  induction bs generalizing s index with
  | nil => exact ⟨s, rfl, h, by simp⟩
  | cons b bs ih =>
    obtain ⟨hb, hitems, hd⟩ := hbs b List.mem_cons_self
    obtain ⟨s₁, hrun, h₁, htext⟩ := h.render consistent hb hitems hd fuel index
    obtain ⟨s₂, hrun₂, h₂, htext₂⟩ :=
      ih h₁ (fun b hb => hbs b (List.mem_cons_of_mem _ hb)) (index + 1)
    refine ⟨s₂, (Block.renderAll_cons bs hrun).trans hrun₂, h₂, ?_⟩
    rw [htext₂, htext, List.map_cons, String.join_cons, String.append_assoc]

end Idle

/-- A page over a cache that holds nothing but values reads as the values of its blocks. -/
theorem Document.render_value (consistent : Block.Consistent blocks) {d : Document}
    (hd : ∀ b ∈ d.blocks, b ∈ blocks ∧ b.items? = some b.items ∧ .deferred ∉ b.items)
    (nonce : String) {cache : Cache} (hc : cache.Keeps (Block.Denotes blocks)) :
    ∃ s, d.render d.fuel (.fresh .standard cache nonce) =
        some (.ok (String.join (d.blocks.map fun b => Item.value b.items b.text)), s) ∧
      s.cache.Keeps (Block.Denotes blocks) := by
  obtain ⟨s₁, hrun, h₁, htext⟩ :=
    (Idle.fresh nonce hc).renderAll consistent hd (Block.totalDefers d.blocks + 2) 0
  obtain ⟨s₂, hfinish, hc₂⟩ := h₁.finish (Block.totalDefers d.blocks + 1)
  have hstart : (State.fresh .standard cache nonce).request.output ++
      (State.fresh .standard cache nonce).request.buffer = "" := rfl
  rw [htext, hstart, String.empty_append] at hfinish
  exact ⟨s₂, Document.render_finish hrun hfinish, hc₂⟩

theorem Cache.serve_value (consistent : Block.Consistent blocks) {pages : List (String × Document)}
    (hpages : ∀ p ∈ pages, ∀ b ∈ p.2.blocks,
      b ∈ blocks ∧ b.items? = some b.items ∧ .deferred ∉ b.items)
    {cache : Cache} (hc : cache.Keeps (Block.Denotes blocks)) :
    ∃ cache', cache.serve pages = some (pages.map fun p =>
      .ok (String.join (p.2.blocks.map fun b => Item.value b.items b.text)), cache') := by
  induction pages generalizing cache with
  | nil => exact ⟨cache, rfl⟩
  | cons p pages ih =>
    obtain ⟨nonce, d⟩ := p
    obtain ⟨s, hrun, hs⟩ :=
      Document.render_value consistent (hpages (nonce, d) List.mem_cons_self) nonce hc
    obtain ⟨cache', hserve⟩ := ih (fun p hp => hpages p (List.mem_cons_of_mem _ hp)) hs
    refine ⟨cache', ?_⟩
    simp only [serve, hrun, Option.bind_eq_bind, Option.bind_some, hserve]
    rfl

/-- Caches do not show: pages that defer nothing and share a cache read as their blocks do when each
is rendered through its filters less those that cache, as long as caches of one key wrap the same
text. How the cache is set up makes no difference. -/
theorem Cache.serve_consistent {pages : List (String × Document)}
    (resolves : ∀ p ∈ pages, ∀ b ∈ p.2.blocks, ∃ fs, b.resolve .standard = .ok fs)
    (undeferred : ∀ p ∈ pages, ∀ b ∈ p.2.blocks, .deferred ∉ b.items)
    (consistent : Block.Consistent (pages.flatMap fun p => p.2.blocks)) :
    ∃ texts, List.Forall₂ (fun p words => List.Forall₂ Block.Reads p.2.blocks words) pages texts ∧
      ∀ config clock, ∃ cache, (CacheConfig.build config clock).serve pages =
        some (texts.map fun words => .ok (String.join words), cache) := by
  have hpages : ∀ p ∈ pages, ∀ b ∈ p.2.blocks, b ∈ pages.flatMap (fun p => p.2.blocks) ∧
      b.items? = some b.items ∧ .deferred ∉ b.items := by
    intro p hp b hb
    obtain ⟨fs, hfs⟩ := resolves p hp b hb
    exact ⟨List.mem_flatMap.mpr ⟨p, hp, hb⟩, Block.items?_of_resolve hfs, undeferred p hp b hb⟩
  refine ⟨pages.map fun p => p.2.blocks.map fun b => Item.value b.items b.text, ?_, ?_⟩
  · rw [List.forall₂_map_right_iff, List.forall₂_same]
    intro p hp
    rw [List.forall₂_map_right_iff, List.forall₂_same]
    exact fun b hb => Block.reads_value (hpages p hp b hb).2.1
  · intro config clock
    obtain ⟨cache, hserve⟩ := serve_value consistent hpages (keeps_build config clock)
    refine ⟨cache, ?_⟩
    rw [hserve, List.map_map]
    rfl

/-- Two pages whose caches share the key `7`, over a cache with room for one text. The first puts
the text in, and drops it for that of `k`. -/
theorem Cache.serve_consistent_shared :
    ∃ cache, (CacheConfig.build ⟨true, 1, some 9⟩).serve
      [("n", ⟨[⟨" a ", none, [⟨"Cache", [.text "k", .integer 5]⟩, ⟨"Repeat", [.integer 2]⟩,
          ⟨"Cache", [.integer 7]⟩, ⟨"Trim", []⟩], true⟩]⟩),
        ("n", ⟨[⟨"a", some "H", [⟨"Cache", [.text "7"]⟩], false⟩]⟩)] =
      some ([.ok "aa", .ok "a"], cache) := by
  have hitems : ∀ p ∈ [("n", Document.mk [⟨" a ", none, [⟨"Cache", [.text "k", .integer 5]⟩,
      ⟨"Repeat", [.integer 2]⟩, ⟨"Cache", [.integer 7]⟩, ⟨"Trim", []⟩], true⟩]),
      ("n", Document.mk [⟨"a", some "H", [⟨"Cache", [.text "7"]⟩], false⟩])],
      ∀ b ∈ p.2.blocks, b.items? = some b.items := by decide
  obtain ⟨texts, hall, hserve⟩ := Cache.serve_consistent
    (fun p hp b hb => ⟨_, Block.resolve_of_items (hitems p hp b hb)⟩) (by decide) (by decide)
  obtain ⟨first, rest, hfirst, hrest, rfl⟩ := List.forall₂_cons_left_iff.mp hall
  obtain ⟨second, last, hsecond, hlast, rfl⟩ := List.forall₂_cons_left_iff.mp hrest
  have haa : first = ["aa"] := List.right_unique_forall₂' Block.reads_unique hfirst
    (.cons (Block.reads_value (hitems _ List.mem_cons_self _ List.mem_cons_self)) .nil)
  have ha : second = ["a"] := List.right_unique_forall₂' Block.reads_unique hsecond
    (.cons (Block.reads_value (hitems _ (.tail _ List.mem_cons_self) _ List.mem_cons_self)) .nil)
  rw [haa, ha, List.forall₂_nil_left_iff.mp hlast] at hserve
  exact hserve _ _

end PageFilters
