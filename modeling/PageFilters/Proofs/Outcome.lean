import PageFilters.Proofs.Fragments
import PageFilters.Proofs.Item
import PageFilters.Proofs.Rendering
import Mathlib.Data.List.Forall2
import Mathlib.Data.List.Infix

namespace PageFilters

/-- A text inside filters. -/
structure Wrapped where
  items : List Item
  text : String

def Wrapped.content (c : Wrapped) : Content :=
  Filter.compose (c.items.map Item.filter) (.literal c.text)

/-- How many producers there are to drain once the content is one of them. -/
def Wrapped.weight (c : Wrapped) : Nat := 1 + Item.defers c.items

/-- Contents that wait, with the numbers of their markers. Numbers may repeat. -/
abbrev Line := List (Nat × Wrapped)

namespace Line

def weight : Line → Nat
  | [] => 0
  | (_, c) :: q => c.weight + weight q

def Stands (nonce : String) (q : Line) (pending : List Pending) : Prop :=
  List.Forall₂ (fun c e => e.marker = .numbered nonce c.1 ∧ e.producer = c.2.content) q pending

theorem weight_append (q q' : Line) : weight (q ++ q') = q.weight + q'.weight := by
  induction q with
  | nil => simp [weight]
  | cons c q ih => simp [weight, ih, Nat.add_assoc]

end Line

/-- What a text may become in filters, and what then waits, if the cache answers with values of a
kind. -/
inductive Outcome (V : String → Prop) (nonce text : String) : List Item → String → Line → Prop
  | plain : Outcome V nonce text [] text []
  | rewrite {r : Rewrite} {is : List Item} {words : String} {q : Line}
      (h : Outcome V nonce text is words q) :
      Outcome V nonce text (.rewrite r :: is) (r.apply words) q
  | never {is : List Item} : Outcome V nonce text (.repeated 0 :: is) "" []
  | again {n : Nat} {is : List Item} {words words' : String} {q q' : Line}
      (h : Outcome V nonce text is words q)
      (h' : Outcome V nonce text (.repeated n :: is) words' q') :
      Outcome V nonce text (.repeated (n + 1) :: is) (words ++ words') (q ++ q')
  | hit {key : String} {ttl : Option Nat} {is : List Item} {value : String} (h : V value) :
      Outcome V nonce text (.cached key ttl :: is) value []
  | miss {key : String} {ttl : Option Nat} {is : List Item} {words : String} {q : Line}
      (h : Outcome V nonce text is words q) : Outcome V nonce text (.cached key ttl :: is) words q
  | later {is : List Item} (k : Nat) :
      Outcome V nonce text (.deferred :: is) (Marker.numbered nonce k).text [(k, ⟨is, text⟩)]

/-- All that the filters may put into a cache is of the kind. -/
def Storable (V : String → Prop) (nonce text : String) (is : List Item) : Prop :=
  ∀ key ttl js, .cached key ttl :: js <:+ is → ∀ words q, Outcome V nonce text js words q → V words

/-- All values in the cache are of the kind. -/
def Cache.Holds (V : String → Prop) (cache : Cache) : Prop := cache.Keeps fun f => V f.value

/-- A request under way that takes markers of the nonce, over a cache with values of the kind. -/
structure Ready (V : String → Prop) (nonce : String) (s : State) : Prop where
  filters : s.request.filters = .standard
  markers : ∃ n, s.request.markers = .distinct nonce n
  unfinished : s.request.finished = false
  cache : s.cache.Holds V

/-- The second state comes from the first by content that leaves the line to wait. -/
structure Leaves (V : String → Prop) (nonce : String) (s : State) (q : Line) (s' : State) :
    Prop where
  ready : Ready V nonce s'
  buffer : s'.request.buffer = s.request.buffer
  output : s'.request.output = s.request.output
  setup : s'.cache.setup? = s.cache.setup?
  pending : ∃ entries, s'.request.queue.pending = s.request.queue.pending ++ entries ∧
    q.Stands nonce entries

variable {V : String → Prop} {nonce text : String}

theorem Storable.tail {i : Item} {is : List Item} (h : Storable V nonce text (i :: is)) :
    Storable V nonce text is :=
  fun key ttl js hjs => h key ttl js (hjs.trans (List.suffix_cons i is))

namespace Leaves

variable {s s' s'' : State} {q q' : Line}

theorem refl (hs : Ready V nonce s) : Leaves V nonce s [] s where
  ready := hs
  buffer := rfl
  output := rfl
  setup := rfl
  pending := ⟨[], by simp, .nil⟩

theorem trans (h : Leaves V nonce s q s') (h' : Leaves V nonce s' q' s'') :
    Leaves V nonce s (q ++ q') s'' where
  ready := h'.ready
  buffer := h'.buffer.trans h.buffer
  output := h'.output.trans h.output
  setup := h'.setup.trans h.setup
  pending := by
    obtain ⟨entries, hp, hq⟩ := h.pending
    obtain ⟨entries', hp', hq'⟩ := h'.pending
    exact ⟨entries ++ entries', by rw [hp', hp, List.append_assoc], List.rel_append hq hq'⟩

theorem of_request {t t' : State} (h : Leaves V nonce s q s') (hs : s.request = t.request)
    (ht : t'.request = s'.request) (hc : t'.cache.Holds V)
    (hsetup : t'.cache.setup? = t.cache.setup?) :
    Leaves V nonce t q t' where
  ready := ⟨ht ▸ h.ready.filters, ht ▸ h.ready.markers, ht ▸ h.ready.unfinished, hc⟩
  buffer := by rw [ht, ← hs, h.buffer]
  output := by rw [ht, ← hs, h.output]
  setup := hsetup
  pending := by rw [ht, ← hs]; exact h.pending

end Leaves

theorem Ready.defer {s : State} (h : Ready V nonce s) (c : Wrapped) :
    ∃ k s', s.defer c.content = (.ok (.numbered nonce k), s') ∧ Leaves V nonce s [(k, c)] s' := by
  obtain ⟨n, hn⟩ := h.markers
  refine ⟨min (n + 1) MarkerSource.lastNumber, (s.defer c.content).2, ?_, ?_⟩
  · simp [State.defer, h.unfinished, MarkerSource.next, hn]
  · simp only [State.defer, h.unfinished, MarkerSource.next, hn, Bool.false_eq_true, ↓reduceIte]
    exact
      { ready := ⟨h.filters, ⟨_, rfl⟩, rfl, h.cache⟩
        buffer := rfl
        output := rfl
        setup := rfl
        pending := ⟨_, rfl, .cons ⟨rfl, rfl⟩ .nil⟩ }

theorem Outcome.weight_le {is : List Item} {words : String} {q : Line}
    (h : Outcome V nonce text is words q) : q.weight ≤ Item.defers is := by
  induction h with
  | plain => simp [Line.weight]
  | rewrite h ih => exact ih
  | never => simp [Line.weight]
  | again h h' ih ih' =>
    rw [Line.weight_append]
    simp only [Item.defers, Nat.succ_mul] at ih' ⊢
    omega
  | hit h => simp [Line.weight]
  | miss h ih => exact ih
  | later k => simp [Line.weight, Wrapped.weight, Item.defers]

theorem run_repeatBody {e : Engine} {c : Content} {is : List Item}
    (hc : ∀ s, Ready V nonce s → ∃ words q s', e.runContent c s = some (.ok words, s') ∧
      Outcome V nonce text is words q ∧ Leaves V nonce s q s')
    (n : Nat) (before : String) {s : State} (hs : Ready V nonce s) :
    ∃ words q s', e.runContent (.fill c (Filter.repeatBody n before)) s =
        some (.ok (before ++ words), s') ∧
      Outcome V nonce text (.repeated n :: is) words q ∧ Leaves V nonce s q s' := by
  induction n generalizing before s with
  | zero =>
    refine ⟨"", [], s, ?_, .never, .refl hs⟩
    simp [Filter.repeatBody, Content.literal, Content.fill, Engine.runContent]
  | succ n ih =>
    obtain ⟨words, q, s₁, hrun, h, hleaves⟩ := hc s hs
    obtain ⟨words', q', s₂, hrun', h', hleaves'⟩ := ih (before ++ words) hleaves.ready
    refine ⟨words ++ words', q ++ q', s₂, ?_, .again h h', hleaves.trans hleaves'⟩
    rw [Engine.runContent_repeatBody_succ e n _ hrun, hrun', String.append_assoc]

theorem run_hit (e : Engine) (c : Content) {key value : String} (ttl : Option Nat) {s s₁ : State}
    (hs : Ready V nonce s) (hget : s.cacheGet key = (some value, s₁)) :
    e.runContent ((Filter.cached key ttl).wrap c) s = some (.ok value, s₁) ∧ V value ∧
      Leaves V nonce s [] s₁ := by
  have hrequest := s.cacheGet_request key
  have hsetup := s.cacheGet_setup key
  have hholds := State.cacheGet_keeps hs.cache key
  obtain ⟨f, hv, _, rfl⟩ := State.cacheGet_eq_some hs.cache (congrArg Prod.fst hget)
  rw [hget] at hrequest hsetup hholds
  refine ⟨?_, hv, (Leaves.refl hs).of_request rfl hrequest hholds hsetup⟩
  rw [Engine.runContent_cached, hget]

theorem run_miss (e : Engine) {c : Content} {key words : String} (ttl : Option Nat)
    {s s₁ s' : State} {q : Line} (hget : s.cacheGet key = (none, s₁))
    (hrun : e.runContent c s₁ = some (.ok words, s')) (hleaves : Leaves V nonce s₁ q s')
    (hv : V words) :
    e.runContent ((Filter.cached key ttl).wrap c) s =
        some (.ok words, s'.cacheSet key words ttl) ∧
      Leaves V nonce s q (s'.cacheSet key words ttl) := by
  have hrequest := s.cacheGet_request key
  have hsetup := s.cacheGet_setup key
  rw [hget] at hrequest hsetup
  refine ⟨?_, hleaves.of_request hrequest (s'.cacheSet_request key words ttl)
    (State.cacheSet_keeps hleaves.ready.cache (fun _ => hv) ttl)
    ((s'.cacheSet_setup key words ttl).trans (hleaves.setup.trans hsetup))⟩
  simp only [Engine.runContent_cached, hget, hrun, Option.bind_some]

theorem Ready.cacheGet {key : String} {found : Option String} {s s₁ : State} (hs : Ready V nonce s)
    (hget : s.cacheGet key = (found, s₁)) : Ready V nonce s₁ := by
  have hrequest := s.cacheGet_request key
  have hholds := State.cacheGet_keeps hs.cache key
  rw [hget] at hrequest hholds
  exact ⟨hrequest ▸ hs.filters, hrequest ▸ hs.markers, hrequest ▸ hs.unfinished, hholds⟩

/-- Content in filters runs to one of its outcomes. -/
theorem run_outcome (e : Engine) {is : List Item} (hstore : Storable V nonce text is) {s : State}
    (hs : Ready V nonce s) :
    ∃ words q s', e.runContent (Filter.compose (is.map Item.filter) (.literal text)) s =
        some (.ok words, s') ∧
      Outcome V nonce text is words q ∧ Leaves V nonce s q s' := by
  induction is generalizing s with
  | nil => exact ⟨text, [], s, rfl, .plain, .refl hs⟩
  | cons i is ih =>
    rw [List.map_cons, Filter.compose_cons]
    cases i with
    | rewrite r =>
      obtain ⟨words, q, s', hrun, h, hleaves⟩ := ih hstore.tail hs
      refine ⟨r.apply words, q, s', ?_, .rewrite h, hleaves⟩
      rw [Item.filter_rewrite, Filter.ofText, Engine.runContent_simple_ok e hrun]
    | repeated n =>
      obtain ⟨words, q, s', hrun, hrest⟩ := run_repeatBody (fun s hs => ih hstore.tail hs) n "" hs
      rw [String.empty_append] at hrun
      exact ⟨words, q, s', hrun, hrest⟩
    | cached key ttl =>
      cases hget : s.cacheGet key with
      | mk found s₁ =>
        cases found with
        | some value =>
          obtain ⟨hrun, hv, hleaves⟩ := run_hit e _ ttl hs hget
          exact ⟨value, [], s₁, hrun, .hit hv, hleaves⟩
        | none =>
          obtain ⟨words, q, s', hrun, h, hleaves⟩ := ih hstore.tail (hs.cacheGet hget)
          have hv : V words := hstore key ttl is List.suffix_rfl words q h
          obtain ⟨hrun', hleaves'⟩ := run_miss e ttl hget hrun hleaves hv
          exact ⟨words, q, _, hrun', .miss h, hleaves'⟩
    | deferred =>
      obtain ⟨k, s', hdefer, hleaves⟩ := hs.defer ⟨is, text⟩
      refine ⟨_, _, s', ?_, .later k, hleaves⟩
      rw [Item.filter_deferred, Filter.deferred_wrap]
      simp only [Wrapped.content] at hdefer
      simp only [Engine.runContent, hdefer]
      rfl

end PageFilters
