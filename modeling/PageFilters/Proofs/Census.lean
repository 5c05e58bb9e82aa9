import PageFilters.Proofs.Fuel
import PageFilters.Proofs.Rewriting
import PageFilters.Proofs.Session
import PageFilters.Proofs.Working
import Mathlib.Algebra.BigOperators.Ring.List
import Mathlib.Algebra.Ring.Nat

namespace PageFilters

namespace Item

/-- How often a filter renders the content that it wraps, each time that it is rendered. -/
def times : Item → Nat
  | repeated n => n
  | _ => 1

/-- For each deferral the product of the counts of the repeats to the left of it. -/
def work (is : List Item) : Nat :=
  ((List.range is.length).map fun i =>
    if is[i]? = some .deferred then ((is.take i).map times).prod else 0).sum

/-- No URI escaping stands to the left of a deferral. -/
def Legible (is : List Item) : Prop :=
  is.Pairwise fun i j => i = .rewrite .uriEscape → j ≠ .deferred

instance (is : List Item) : Decidable (Legible is) :=
  inferInstanceAs (Decidable (List.Pairwise _ is))

theorem work_cons (i : Item) (is : List Item) :
    work (i :: is) = (if i = .deferred then 1 else 0) + i.times * work is := by
  have hrest : ∀ j, (if is[j]? = some .deferred then ((i :: is.take j).map times).prod else 0) =
      i.times * if is[j]? = some .deferred then ((is.take j).map times).prod else 0 := by
    intro j
    split
    next => rw [List.map_cons, List.prod_cons]
    next => rw [Nat.mul_zero]
  have hfirst : (if (i :: is)[0]? = some .deferred then (((i :: is).take 0).map times).prod
      else 0) = if i = .deferred then 1 else 0 := by simp
  rw [work, List.length_cons, List.range_succ_eq_map, List.map_cons, List.sum_cons, List.map_map,
    hfirst, work, ← List.sum_map_mul_left _ _ i.times]
  exact congrArg (_ + ·) (congrArg List.sum (List.map_congr_left fun j _ => hrest j))

/-- The work of the filters is what their content registers. -/
theorem work_eq_defers (is : List Item) : work is = defers is := by
  induction is with
  | nil => rfl
  | cons i is ih =>
    rw [work_cons, ih]
    cases i with
    | rewrite r => simp [defers, times]
    | repeated n => simp [defers, times]
    | cached key ttl => simp [defers, times]
    | deferred => simp [defers, times]

end Item

/-- The work of all blocks. -/
def Document.work (d : Document) : Nat := (d.blocks.map fun b => Item.work b.items).sum

theorem Block.totalDefers_eq_work {bs : List Block} (h : ∀ b ∈ bs, b.items? = some b.items) :
    totalDefers bs = (bs.map fun b => Item.work b.items).sum := by
  induction bs with
  | nil => rfl
  | cons b bs ih =>
    obtain ⟨hb, hbs⟩ := List.forall_mem_cons.mp h
    rw [totalDefers, countDefers_eq hb, ih hbs, List.map_cons, List.sum_cons, Item.work_eq_defers]

theorem Text.solid_of_isAlphanum {c : Char} (h : c.isAlphanum = true) : Solid c := by
  have hsolid : ∀ n < 128, (Char.ofNat n).isAlphanum = true → Solid (Char.ofNat n) := by decide
  have hlt := toNat_lt_of_isAlphanum h
  rw [← Char.ofNat_toNat c] at h ⊢
  exact hsolid c.toNat hlt h

namespace Discipline

/-- Each content that waits has its marker in the buffer, and each marker there is waited for. -/
def numbered (nonce : String) : Discipline where
  strict := True
  source source := ∃ n, source = .distinct nonce n
  marker marker := ∃ n, marker = .numbered nonce n
  fit c := Ordinary c.text.toList ∧ Item.Legible c.items
  good load buffer := (∀ c ∈ load, Ordinary c.2.text.toList ∧ Item.Legible c.2.items) ∧
    ∃ ps, buffer = Piece.raw nonce ps ∧ Piece.Plain ps ∧
      (load.map Prod.fst).Perm ((Piece.indices ps).map (Marker.numbered nonce))
  shown output := Ordinary output.toList

variable {nonce : String} {load load' : Load} {buffer words : String}

theorem good_words (h : Ordinary words.toList) : (numbered nonce).good [] words := by
  refine ⟨nofun, [.text words], ?_, ⟨h, trivial⟩, .nil⟩
  simp [Piece.raw, Piece.join]

theorem good_append (h : (numbered nonce).good load buffer)
    (h' : (numbered nonce).good load' words) :
    (numbered nonce).good (load ++ load') (buffer ++ words) := by
  obtain ⟨hfit, ps, rfl, plain, hperm⟩ := h
  obtain ⟨hfit', ps', rfl, plain', hperm'⟩ := h'
  refine ⟨List.forall_mem_append.mpr ⟨hfit, hfit'⟩, ps ++ ps', (Piece.raw_append nonce ps ps').symm,
    Piece.plain_append.mpr ⟨plain, plain'⟩, ?_⟩
  rw [List.map_append, Piece.indices_append, List.map_append]
  exact hperm.append hperm'

/-- The marker of the first content that waits stands in the buffer. -/
theorem exists_marker {m : Marker} {c : Wrapped}
    (h : (numbered nonce).good ((m, c) :: load) buffer) :
    ∃ n before after, m = .numbered nonce n ∧
      buffer = Piece.raw nonce (before ++ .marker n :: after) ∧ Piece.Plain before ∧
      Piece.Plain after ∧ n ∉ Piece.indices before ∧
      (load.map Prod.fst).Perm ((Piece.indices (before ++ after)).map (Marker.numbered nonce)) := by
  obtain ⟨_, ps, rfl, plain, hperm⟩ := h
  obtain ⟨n, hn, rfl⟩ := List.mem_map.mp (hperm.subset List.mem_cons_self)
  obtain ⟨before, after, rfl, hfirst⟩ := Piece.exists_first_marker hn
  obtain ⟨hbefore, hafter⟩ := Piece.plain_append.mp plain
  refine ⟨n, before, after, rfl, rfl, hbefore, hafter, hfirst, ?_⟩
  rw [Piece.indices_append, Piece.indices, List.map_append, List.map_cons] at hperm
  rw [Piece.indices_append, List.map_append]
  exact (hperm.trans List.perm_middle).cons_inv

theorem good_fill (hn : Ordinary nonce.toList) {m : Marker} {c : Wrapped}
    (h : (numbered nonce).good ((m, c) :: load) buffer)
    (h' : (numbered nonce).good load' words) :
    (numbered nonce).good (load ++ load')
      ((Text.substituteFirst m.text words buffer).getD buffer) := by
  obtain ⟨n, before, after, rfl, rfl, hbefore, hafter, hfirst, hperm⟩ := exists_marker h
  obtain ⟨hfit', ps, rfl, plain, hperm'⟩ := h'
  refine ⟨List.forall_mem_append.mpr ⟨(List.forall_mem_cons.mp h.1).2, hfit'⟩,
    before ++ ps ++ after, ?_, ?_, ?_⟩
  · rw [Piece.substituteFirst_raw_present hn _ hbefore hfirst, Option.getD_some, Piece.raw_append,
      Piece.raw_append]
  · rw [Piece.plain_append, Piece.plain_append]
    exact ⟨⟨hbefore, plain⟩, hafter⟩
  · have hboth := hperm.append hperm'
    rw [List.map_append]
    refine hboth.trans ?_
    simp only [Piece.indices_append, List.map_append, List.append_assoc]
    exact List.perm_append_comm.append_left _

theorem load_eq_nil {k : Discipline} {text : String} {is : List Item}
    (h : k.Comes text is words load) (hd : .deferred ∉ is) : load = [] := by
  induction h with
  | plain => rfl
  | rewrite h ih => exact ih fun hm => hd (List.mem_cons_of_mem _ hm)
  | never => rfl
  | again h h' ih ih' =>
    rw [ih fun hm => hd (List.mem_cons_of_mem _ hm), ih' fun hm => hd ?_]
    · rfl
    · rcases List.mem_cons.mp hm with hm | hm
      · cases hm
      · exact List.mem_cons_of_mem _ hm
  | hit h => rfl
  | miss h ih => exact ih fun hm => hd (List.mem_cons_of_mem _ hm)
  | later h => exact absurd List.mem_cons_self hd

/-- Legible filters leave each marker of their content whole. -/
theorem good_of_comes (solid : ∀ c ∈ nonce.toList, Text.Solid c) {text : String} {is : List Item}
    (h : (numbered nonce).Comes text is words load) (ht : Ordinary text.toList)
    (legible : Item.Legible is) : (numbered nonce).good load words := by
  induction h with
  | plain => exact good_words ht
  | @rewrite r is words load h ih =>
    obtain ⟨hleft, legible⟩ := List.pairwise_cons.mp legible
    by_cases hr : r = .uriEscape
    · -- Nothing waits, so that there is no marker to tear.
      subst hr
      rw [load_eq_nil h fun hm => hleft _ hm rfl rfl]
      exact good_words (Text.uriEscape_ordinary words)
    · obtain ⟨hfit, ps, rfl, plain, hperm⟩ := ih legible
      obtain ⟨qs, happly, hqs, hindices⟩ :=
        Rewrite.apply_raw hr plain (.inr (Rewrite.spares_solid hr solid))
      exact ⟨hfit, qs, happly, hqs, hindices ▸ hperm⟩
  | never => exact good_words ordinary_nil
  | again h h' ih ih' =>
    obtain ⟨_, hinner⟩ := List.pairwise_cons.mp legible
    exact good_append (ih hinner) (ih' (List.pairwise_cons.mpr ⟨nofun, hinner⟩))
  | hit h => exact absurd trivial h
  | miss h ih => exact ih (List.pairwise_cons.mp legible).2
  | @later is m h =>
    obtain ⟨n, rfl⟩ := h
    refine ⟨?_, [.marker n], by simp [Piece.raw, Piece.join], trivial, .refl _⟩
    intro c hc
    rw [List.mem_singleton.mp hc]
    exact ⟨ht, (List.pairwise_cons.mp legible).2⟩

theorem numbered_lawful (hn : Ordinary nonce.toList)
    (solid : ∀ c ∈ nonce.toList, Text.Solid c) : (numbered nonce).Lawful where
  next := by
    rintro _ ⟨n, rfl⟩
    exact ⟨⟨_, rfl⟩, ⟨_, rfl⟩⟩
  blank := good_words ordinary_nil
  print hfit h hcomes := good_append h (good_of_comes solid hcomes hfit.1 hfit.2)
  turn h hcomes := by
    obtain ⟨hfit, _⟩ := List.forall_mem_cons.mp h.1
    exact good_fill hn h (good_of_comes solid hcomes hfit.1 hfit.2)
  found _ h words := by
    obtain ⟨n, before, after, rfl, rfl, hbefore, _, hfirst, _⟩ := exists_marker h
    rw [Piece.substituteFirst_raw_present hn _ hbefore hfirst]
    rfl
  emit {output text} houtput h := by
    change Ordinary (output ++ text).toList
    rw [String.toList_append]
    obtain ⟨_, ps, rfl, plain, hperm⟩ := h
    have hnone : Piece.indices ps = [] := List.map_eq_nil_iff.mp hperm.symm.eq_nil
    refine ordinary_append.mpr ⟨houtput, Piece.join_ordinary plain ?_⟩
    simp [hnone]

end Discipline

/-- A page ends, and it does just the work that its filters ask for: each deferral registers as many
producers as the repeats to the left of it make, all of them find their markers, and the queue is
drained once for each flush that the page asks for and once at its end. -/
theorem Document.render_exact {d : Document} {nonce : String}
    (alphanumeric : ∀ c ∈ nonce.toList, c.isAlphanum = true)
    (resolves : ∀ b ∈ d.blocks, ∃ fs, b.resolve .standard = .ok fs)
    (plain : ∀ b ∈ d.blocks, Ordinary b.text.toList)
    (legible : ∀ b ∈ d.blocks, Item.Legible b.items) :
    (∀ b ∈ d.blocks, b.resolve .standard = .ok (b.items.map Item.filter)) ∧
    ∃ text s, (∀ fuel, d.fuel ≤ fuel →
        d.render fuel (.fresh .standard .null nonce) = some (.ok text, s)) ∧
      s.counted "mason_defer_registered_total" = d.work ∧
      s.counted "mason_defer_resolved_total" = d.work ∧
      s.counted "mason_defer_marker_missing_total" = 0 ∧
      s.counted "mason_flush_ms" = d.blocks.countP Block.flush + 1 ∧
      Ordinary text.toList := by
  have solid : ∀ c ∈ nonce.toList, Text.Solid c :=
    fun c hc => Text.solid_of_isAlphanum (alphanumeric c hc)
  have hn : Ordinary nonce.toList := by
    constructor
    all_goals
      intro hc
      exact absurd (alphanumeric _ hc) (by decide)
  have lawful := Discipline.numbered_lawful hn solid
  have hitems : ∀ b ∈ d.blocks, b.items? = some b.items := by
    intro b hb
    obtain ⟨fs, hfs⟩ := resolves b hb
    exact Block.items?_of_resolve hfs
  have hwork : Block.totalDefers d.blocks = d.work := Block.totalDefers_eq_work hitems
  have hf : 0 + Block.totalDefers d.blocks + 1 < d.fuel := by
    rw [fuel]
    omega
  have hnew : (Discipline.numbered nonce).Paged 0 0 [] (.fresh .standard .null nonce) :=
    Discipline.paged_new lawful ⟨0, rfl⟩ (fun _ => rfl) ordinary_nil
  obtain ⟨load, s₁, hrun, hpaged, _⟩ := hnew.blocks lawful
    (fun b hb => ⟨hitems b hb, plain b hb, legible b hb⟩) d.fuel (Nat.lt_of_succ_lt hf) 0
  obtain ⟨text, s, hfinish, _, hshown, hsettled, hstrict, hflushes⟩ :=
    hpaged.finish lawful d.fuel hf
  obtain ⟨hregistered, hmissing⟩ := hstrict trivial
  rw [Nat.zero_add, hwork] at hregistered
  rw [hregistered, hmissing, Nat.add_zero] at hsettled
  rw [Nat.zero_add] at hflushes
  exact ⟨fun b hb => Block.resolve_of_items (hitems b hb), text, s,
    fun fuel hf => render_mono hf (Document.render_finish hrun hfinish), hregistered,
    hsettled.symm, hmissing, hflushes, hshown⟩

/-- Repeats around and between deferrals, escaping on both sides of one, and a flush. -/
theorem Document.render_exact_nested :
    ∃ text s, Document.render 12
      ⟨[⟨" x ", some "Trim", [⟨"Repeat", [.integer 2]⟩, ⟨"Defer", []⟩, ⟨"HtmlPara", []⟩,
          ⟨"Repeat", [.integer 3]⟩, ⟨"Defer", []⟩, ⟨"U", []⟩], true⟩,
        ⟨"<", none, [⟨"H", []⟩, ⟨"Cache", [.text "k"]⟩, ⟨"Defer", []⟩], false⟩]⟩
      (.fresh .standard .null "n1") = some (.ok text, s) ∧
      s.counted "mason_defer_registered_total" = 9 ∧
      s.counted "mason_defer_resolved_total" = 9 ∧
      s.counted "mason_defer_marker_missing_total" = 0 ∧ s.counted "mason_flush_ms" = 2 ∧
      Ordinary text.toList := by
  have hitems : ∀ b ∈ [Block.mk " x " (some "Trim") [⟨"Repeat", [.integer 2]⟩, ⟨"Defer", []⟩,
      ⟨"HtmlPara", []⟩, ⟨"Repeat", [.integer 3]⟩, ⟨"Defer", []⟩, ⟨"U", []⟩] true,
      ⟨"<", none, [⟨"H", []⟩, ⟨"Cache", [.text "k"]⟩, ⟨"Defer", []⟩], false⟩],
      b.items? = some b.items ∧ Item.Legible b.items := by decide
  obtain ⟨_, text, s, hrender, hregistered, hresolved, hmissing, hflushes, hordinary⟩ :=
    @Document.render_exact ⟨_⟩ "n1" (by simp)
      (fun b hb => ⟨_, Block.resolve_of_items (hitems b hb).1⟩) (by decide)
      fun b hb => (hitems b hb).2
  exact ⟨text, s, hrender 12 (by decide), hregistered.trans (by decide),
    hresolved.trans (by decide), hmissing, hflushes, hordinary⟩

end PageFilters
