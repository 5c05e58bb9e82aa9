import PageFilters.Proofs.Leaking
import Mathlib.Data.Set.Defs

namespace PageFilters

/-- The pages take these nonces, and each block that resolves has a list of filters of these kinds
around ordinary text. -/
def Drawn (N : Set String) (A : Set (List Kind)) (pages : List (String × Document)) : Prop :=
  ∀ p ∈ pages, p.1 ∈ N ∧ ∀ b ∈ p.2.blocks, Ordinary b.text.toList ∧
    ∀ is, b.items? = some is → is.map Item.kind ∈ A

theorem drawn_page {N : Set String} {A : Set (List Kind)} {nonce : String} {ks : List Kind}
    (hn : nonce ∈ N) (hks : ks ∈ A) (n : Nat) : Drawn N A [(nonce, Kind.page n ks)] := by
  intro p hp
  rw [List.mem_singleton.mp hp]
  refine ⟨hn, ?_⟩
  intro b hb
  rw [List.eq_of_mem_replicate hb]
  refine ⟨ordinary_nil, ?_⟩
  intro is his
  rw [Kind.items?_block] at his
  rw [← Option.some.inj his, Kind.map_kind_item]
  exact hks

/-- Pages over one cache show no end of a marker, whatever their texts and however large the cache,
exactly if no marker comes into a cache and none is torn by a filter outside of it. How time passes
makes no difference. Of the lists of filters in use the right parts are in use too. -/
theorem Cache.serve_ordinary_iff {N : Set String} (hN : ∀ nonce ∈ N, Ordinary nonce.toList)
    {A : Set (List Kind)} (hA : ∀ ks ∈ A, ∀ js, js <:+ ks → js ∈ A) (clock : Clock) :
    (∀ capacity ttl pages, Drawn N A pages → ∃ results cache,
        ((CacheConfig.mk true capacity ttl).build clock).serve pages = some (results, cache) ∧
        ∀ text, .ok text ∈ results → Ordinary text.toList) ↔
      ∀ nonce ∈ N, ∀ ks ∈ A, Kind.Sealed ks ∧ Kind.Untorn nonce ks := by
  constructor
  · intro h nonce hnonce ks hks
    by_contra hbad
    obtain ⟨js, hsuffix, n, text, cache, hserve, hopen⟩ :=
      Kind.exists_leak clock (hN nonce hnonce) hbad
    obtain ⟨results, cache', hserve', hresults⟩ :=
      h 1 none _ (drawn_page hnonce (hA ks hks js hsuffix) n)
    rw [hserve] at hserve'
    cases Option.some.inj hserve'
    exact (hresults text List.mem_cons_self).1 hopen
  · intro h capacity ttl pages hpages
    have hsound : ∀ p ∈ pages, Ordinary p.1.toList ∧ ∀ b ∈ p.2.blocks, b.Sound p.1 := by
      intro p hp
      obtain ⟨hnonce, hblocks⟩ := hpages p hp
      refine ⟨hN p.1 hnonce, ?_⟩
      intro b hb is his
      obtain ⟨hplain, hitems⟩ := hblocks b hb
      obtain ⟨hs, hu⟩ := h p.1 hnonce _ (hitems is his)
      exact ⟨hplain, hs, hu⟩
    exact serve_ordinary hsound fun _ hf => absurd hf List.not_mem_nil

/-- A cache and filters inside of it are deferred together, on two pages that share the value. -/
theorem Cache.serve_ordinary_iff_deferred_cache :
    ∃ results cache, ((CacheConfig.mk true 1 none).build ⟨0, [1, Clock.second]⟩).serve
        (List.replicate 2
          ("n", ⟨[⟨"<", some "Defer", [⟨"Cache", [.text "k"]⟩, ⟨"H", []⟩], true⟩]⟩)) =
          some (results, cache) ∧
      ∀ text, .ok text ∈ results → Ordinary text.toList := by
  have hN : ∀ nonce ∈ ({"n"} : Set String), Ordinary nonce.toList := by
    rintro nonce rfl
    decide
  have hA : ∀ ks ∈ {ks | Kind.Sealed ks}, ∀ js, js <:+ ks → js ∈ {ks | Kind.Sealed ks} := by
    rintro ks hks js ⟨front, rfl⟩
    exact Kind.sealed_append hks
  refine (Cache.serve_ordinary_iff hN hA _).mpr ?_ 1 none _ ?_
  · rintro nonce rfl ks hks
    exact ⟨hks, Kind.untorn_of_solid (Text.solid_of_all (by decide)) ks⟩
  · intro p hp
    rw [List.eq_of_mem_replicate hp]
    refine ⟨rfl, ?_⟩
    intro b hb
    rw [List.mem_singleton.mp hb]
    refine ⟨by decide, ?_⟩
    intro is his
    have hitems : is = [.deferred, .cached "k" none, .rewrite .htmlEscape] :=
      (Option.some.inj his).symm.trans rfl
    rw [hitems]
    exact (by decide : Kind.Sealed [.deferred, .cached, .rewrite .htmlEscape])

/-- A cache outside of a deferral stores the marker: the page rendered next shows it. -/
theorem Cache.serve_shows_cached_marker :
    ((CacheConfig.mk true 1024 none).build.serve
        (List.replicate 2
          ("n", ⟨[⟨"a", none, [⟨"Cache", [.text "k"]⟩, ⟨"Defer", []⟩], false⟩]⟩))).map Prod.fst =
        some [.ok "a", .ok (Marker.numbered "n" 1).text] ∧
      Ordinary "a".toList ∧ Ordinary "n".toList ∧
      ¬ Ordinary (Marker.numbered "n" 1).text.toList := by
  decide +kernel

end PageFilters
