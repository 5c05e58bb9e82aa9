import PageFilters.Proofs.Producer
import PageFilters.Proofs.Rewriting
import Mathlib.Data.List.Nodup

namespace PageFilters

open Plan

namespace Plan

/-- A plan carried out `n` times in a row, with the texts returned put together. -/
def times : Nat → Plan → Plan
  | 0, _ => node [] [] []
  | n + 1, p =>
    node (p.children ++ (times n p).children) []
      (p.returned ++ (times n p).returned.map (Piece.renumber (p.children.length + ·)))

theorem times_succ_children (n : Nat) (p : Plan) :
    (times (n + 1) p).children = p.children ++ (times n p).children := rfl

theorem times_succ_returned (n : Nat) (p : Plan) :
    (times (n + 1) p).returned =
      p.returned ++ (times n p).returned.map (Piece.renumber (p.children.length + ·)) := rfl

theorem times_printed (n : Nat) (p : Plan) : (times n p).printed = [] := by
  cases n <;> rfl

theorem mem_times_children {n : Nat} {p q : Plan} (h : q ∈ (times n p).children) :
    q ∈ p.children := by
  induction n with
  | zero => simp [times, children] at h
  | succ n ih =>
    rw [times_succ_children, List.mem_append] at h
    exact h.elim id ih

theorem nodesAll_times (n : Nat) (p : Plan) :
    (nodesAll (times n p).children).length = n * (nodesAll p.children).length := by
  induction n with
  | zero => simp [times, children, nodesAll]
  | succ n ih =>
    rw [times_succ_children, nodesAll_append, List.length_append, ih, Nat.succ_mul, Nat.add_comm]

theorem times_linear {p : Plan} (h : p.Linear) (n : Nat) : (times n p).Linear := by
  induction n with
  | zero => exact ⟨trivial, trivial, by simp [times, printed, returned, Piece.indices],
      by simp [times, printed, returned, Piece.indices]⟩
  | succ n ih =>
    obtain ⟨_, plain, nodup, known⟩ := h
    obtain ⟨_, plain', nodup', known'⟩ := ih
    rw [times_printed, List.nil_append] at nodup' known'
    rw [Piece.indices_append] at nodup known
    have returnedKnown : ∀ i ∈ Piece.indices p.returned, i < p.children.length :=
      fun i hi => known i (List.mem_append_right _ hi)
    refine ⟨trivial, ?_, ?_, ?_⟩
    · rw [times_succ_returned, Piece.plain_append, Piece.plain_renumber]
      exact ⟨plain, plain'⟩
    · rw [times_printed, List.nil_append, times_succ_returned, Piece.indices_append,
        Piece.indices_renumber, List.nodup_append]
      refine ⟨(List.nodup_append.mp nodup).2.1,
        List.Nodup.map (fun i j hij => by simpa using hij) nodup', ?_⟩
      intro i hi j hj
      obtain ⟨k, _, rfl⟩ := List.mem_map.mp hj
      have := returnedKnown i hi
      omega
    · rw [times_printed, List.nil_append, times_succ_returned, Piece.indices_append,
        Piece.indices_renumber, times_succ_children, List.length_append]
      intro i hi
      rcases List.mem_append.mp hi with hi | hi
      · have := returnedKnown i hi
        omega
      · obtain ⟨k, hk, rfl⟩ := List.mem_map.mp hi
        have := known' k hk
        omega

theorem times_expand {p : Plan} (h : p.Linear) (n : Nat) :
    (times n p).expand = String.join (List.replicate n p.expand) := by
  induction n with
  | zero => rw [expand_eq]; rfl
  | succ n ih =>
    rw [List.replicate_succ, String.join_cons, ← ih, expand_eq, expand_eq p, expand_eq (times n p),
      times_succ_children, times_succ_returned, Piece.join_append, Piece.join_renumber,
      List.map_append]
    have hfirst : Piece.join
        (fun i => (p.children.map expand ++ (times n p).children.map expand).getD i "") p.returned =
        Piece.join (fun i => (p.children.map expand).getD i "") p.returned := by
      apply Piece.join_congr
      intro i hi
      have hlt : i < p.children.length := h.2.2.2 i (by simp [Piece.indices_append, hi])
      rw [List.getD_eq_getElem?_getD, List.getD_eq_getElem?_getD,
        List.getElem?_append_left (by simpa using hlt)]
    rw [hfirst]
    congr 1
    apply Piece.join_congr
    intro i _
    rw [List.getD_eq_getElem?_getD, List.getD_eq_getElem?_getD,
      List.getElem?_append_right (by simp)]
    simp

end Plan

namespace Item

/-- No rewriting stands left of a deferral. -/
def DefersLead : List Item → Prop
  | [] => True
  | rewrite _ :: is => deferred ∉ is
  | repeated _ :: is => DefersLead is
  | cached _ _ :: is => DefersLead is
  | deferred :: is => DefersLead is

instance decidableDefersLead : (is : List Item) → Decidable (DefersLead is)
  | [] => inferInstanceAs (Decidable True)
  | rewrite _ :: is => inferInstanceAs (Decidable (deferred ∉ is))
  | repeated _ :: is => decidableDefersLead is
  | cached _ _ :: is => decidableDefersLead is
  | deferred :: is => decidableDefersLead is

theorem defersLead_of_not_mem {is : List Item} (h : deferred ∉ is) : DefersLead is := by
  induction is with
  | nil => trivial
  | cons i is ih =>
    have hm : deferred ∉ is := fun hm => h (List.mem_cons_of_mem _ hm)
    cases i with
    | rewrite r => exact hm
    | repeated n => exact ih hm
    | cached key ttl => exact ih hm
    | deferred => simp at h

/-- The filters without those that defer or cache. -/
def direct : List Item → List Item :=
  List.filter fun
    | deferred => false
    | cached _ _ => false
    | _ => true

/-- What a text becomes in filters when nothing is deferred or cached. -/
def value : List Item → String → String
  | [], text => text
  | rewrite r :: is, text => r.apply (value is text)
  | repeated n :: is, text => String.join (List.replicate n (value is text))
  | cached _ _ :: is, text => value is text
  | deferred :: is, text => value is text

/-- What content in filters does with its request when nothing is cached. -/
def plan : List Item → String → Plan
  | [], text => .node [] [] [.text text]
  | rewrite r :: is, text => .node [] [] [.text (r.apply (plan is text).expand)]
  | repeated n :: is, text => (plan is text).times n
  | cached _ _ :: is, text => plan is text
  | deferred :: is, text => .node [plan is text] [] [.marker 0]

theorem plan_printed (is : List Item) (text : String) : (plan is text).printed = [] := by
  induction is with
  | nil => rfl
  | cons i is ih =>
    cases i with
    | rewrite r => rfl
    | repeated n => exact times_printed n _
    | cached key ttl => exact ih
    | deferred => rfl

theorem plan_children {is : List Item} (h : deferred ∉ is) (text : String) :
    (plan is text).children = [] := by
  induction is with
  | nil => rfl
  | cons i is ih =>
    have ih := ih fun hm => h (List.mem_cons_of_mem _ hm)
    cases i with
    | rewrite r => rfl
    | repeated n =>
      rw [List.eq_nil_iff_forall_not_mem]
      intro q hq
      have hm := mem_times_children hq
      simp [ih] at hm
    | cached key ttl => exact ih
    | deferred => simp at h

/-- The plan of content in filters is linear all the way down, and none of it prints. -/
theorem plan_linear {text : String} (h : Ordinary text.toList) (is : List Item) :
    ∀ q ∈ (plan is text).nodes, q.Linear ∧ q.printed = [] := by
  induction is with
  | nil =>
    intro q hq
    have he : q = .node [] [] [.text text] := by simpa [plan, nodes, nodesAll] using hq
    subst he
    exact ⟨⟨trivial, ⟨h, trivial⟩, List.nodup_nil, by simp [printed, returned, Piece.indices]⟩, rfl⟩
  | cons i is ih =>
    cases i with
    | rewrite r =>
      intro q hq
      have hexpand : Ordinary (plan is text).expand.toList :=
        expand_ordinary fun q hq => (ih q hq).1
      have he : q = .node [] [] [.text (r.apply (plan is text).expand)] := by
        simpa [plan, nodes, nodesAll] using hq
      subst he
      exact ⟨⟨trivial, ⟨r.apply_ordinary hexpand, trivial⟩, List.nodup_nil,
        by simp [printed, returned, Piece.indices]⟩, rfl⟩
    | repeated n =>
      have hself : (plan is text).Linear := (ih _ (by simp [nodes_eq])).1
      intro q hq
      rw [plan, nodes_eq, List.mem_cons, mem_nodesAll] at hq
      rcases hq with rfl | ⟨c, hc, hq⟩
      · exact ⟨times_linear hself n, times_printed n _⟩
      · apply ih
        rw [nodes_eq]
        exact List.mem_cons_of_mem _ (mem_nodesAll.mpr ⟨c, mem_times_children hc, hq⟩)
    | cached key ttl => exact ih
    | deferred =>
      intro q hq
      rw [plan, nodes_eq, List.mem_cons, mem_nodesAll] at hq
      rcases hq with rfl | ⟨c, hc, hq⟩
      · exact ⟨by simp [Linear, printed, returned, children, Piece.Plain, Piece.indices], rfl⟩
      · rw [List.mem_singleton.mp hc] at hq
        exact ih q hq

theorem plan_expand {text : String} (h : Ordinary text.toList) (is : List Item) :
    (plan is text).expand = value is text := by
  induction is with
  | nil => simp [plan, expand, value, Piece.join]
  | cons i is ih =>
    cases i with
    | rewrite r => simp [plan, expand, value, Piece.join, ih]
    | repeated n =>
      have hself : (plan is text).Linear := (plan_linear h is _ (by simp [nodes_eq])).1
      rw [plan, times_expand hself, ih, value]
    | cached key ttl => exact ih
    | deferred => simp [plan, expand, expandAll, value, Piece.join, ih]

theorem defers_eq_zero {is : List Item} (h : deferred ∉ is) : defers is = 0 := by
  induction is with
  | nil => rfl
  | cons i is ih =>
    have ih := ih fun hm => h (List.mem_cons_of_mem _ hm)
    cases i with
    | rewrite r => exact ih
    | repeated n => simp [defers, ih]
    | cached key ttl => exact ih
    | deferred => simp at h

theorem plan_size {is : List Item} (h : DefersLead is) (text : String) :
    (nodesAll (plan is text).children).length = defers is := by
  induction is with
  | nil => rfl
  | cons i is ih =>
    cases i with
    | rewrite r => exact (defers_eq_zero h).symm
    | repeated n => rw [plan, nodesAll_times, ih h, defers]
    | cached key ttl => exact ih h
    | deferred =>
      rw [plan, children, nodesAll_cons, List.length_cons, List.length_append, ih h, defers]
      simp [nodesAll, Nat.add_comm]

/-- What holds before and after each rendering of a content holds after all of them. -/
theorem run_repeatBody (e : Engine) {P : State → Prop} {c : Content} {text : String}
    (h : ∀ s, P s → ∃ s', e.runContent c s = some (.ok text, s') ∧ P s') (n : Nat)
    (output : String) {s : State} (hs : P s) :
    ∃ s', e.runContent (.fill c (Filter.repeatBody n output)) s =
      some (.ok (output ++ String.join (List.replicate n text)), s') ∧ P s' := by
  induction n generalizing output s with
  | zero =>
    refine ⟨s, ?_, hs⟩
    simp [Filter.repeatBody, Content.literal, Content.fill, Engine.runContent]
  | succ n ih =>
    obtain ⟨s₁, hrun, hs₁⟩ := h s hs
    obtain ⟨s₂, hrest, hs₂⟩ := ih (output ++ text) hs₁
    refine ⟨s₂, ?_, hs₂⟩
    rw [Engine.runContent_repeatBody_succ e n output hrun, hrest, List.replicate_succ,
      String.join_cons, String.append_assoc]

/-- Without deferrals and caches, filters render the value of a text and touch nothing. -/
theorem run_direct (e : Engine) (is : List Item) (text : String) (s : State) :
    e.runContent (Filter.compose ((direct is).map filter) (.literal text)) s =
      some (.ok (value is text), s) := by
  induction is generalizing s with
  | nil => rfl
  | cons i is ih =>
    cases i with
    | rewrite r =>
      have hd : direct (rewrite r :: is) = rewrite r :: direct is := rfl
      rw [hd, List.map_cons, Filter.compose_cons, filter_rewrite, Filter.ofText,
        Engine.runContent_simple_ok e (ih s), value]
    | repeated n =>
      have hd : direct (repeated n :: is) = repeated n :: direct is := rfl
      rw [hd, List.map_cons, Filter.compose_cons, filter_repeated, value]
      have hself : ∀ t, t = s → ∃ t', e.runContent
          (Filter.compose ((direct is).map filter) (.literal text)) t =
            some (.ok (value is text), t') ∧ t' = s := by
        rintro t rfl
        exact ⟨t, ih t, rfl⟩
      obtain ⟨s', hrun, rfl⟩ := run_repeatBody e hself n "" rfl
      rw [String.empty_append] at hrun
      exact hrun
    | cached key ttl => exact ih s
    | deferred => exact ih s

end Item

namespace Setting

variable {w : Setting}

theorem text_append (n : Nat) (ps qs : List Piece) :
    w.text n (ps ++ qs) = w.text n ps ++ w.text n qs := by
  rw [text, List.map_append, Piece.raw_append]
  rfl

theorem text_renumber (n m : Nat) (ps : List Piece) :
    w.text n (ps.map (Piece.renumber (m + ·))) = w.text (n + m) ps := by
  rw [text, text, Piece.raw, Piece.raw, Piece.join_renumber, Piece.join_renumber,
    Piece.join_renumber]
  apply Piece.join_congr
  intro i _
  rw [show n + 1 + (m + i) = n + m + 1 + i by omega]

theorem text_of_childless {p : Plan} (h : p.Linear) (hc : p.children = []) (n : Nat) :
    w.text n p.returned = p.expand := by
  rw [text, Piece.raw, Piece.join_renumber, p.expand_eq]
  apply Piece.join_congr
  intro i hi
  have hlt := h.2.2.2 i (by simp [Piece.indices_append, hi])
  simp [hc] at hlt

theorem realizes_repeatBody {p : Plan} {c : Content} (hc : w.Realizes p c) (hp : p.printed = [])
    {fuel n : Nat} {s : State} (hf : w.fuel ≤ fuel) (hs : w.Holds n s) (k : Nat) (output : String)
    (hn : n + (times k p).children.length ≤ MarkerSource.lastNumber) :
    ∃ entries s', (Engine.ofFuel fuel).runContent (.fill c (Filter.repeatBody k output)) s =
        some (.ok (output ++ w.text n (times k p).returned), s') ∧
      w.Extends n s "" entries s' ∧
      List.Forall₂ w.Realizes (times k p).children (entries.map Pending.producer) := by
  induction k generalizing n s output with
  | zero =>
    refine ⟨[], s, ?_, .refl hs, .nil⟩
    simp [Filter.repeatBody, Content.literal, Content.fill, Engine.runContent, times, returned,
      text, Piece.raw, Piece.join]
  | succ k ih =>
    rw [times_succ_children, List.length_append] at hn
    obtain ⟨entries, s₁, hrun, hext, hkids⟩ := realizes_iff.mp hc fuel n s hf hs (by omega)
    have hlen : entries.length = p.children.length := by simpa using hkids.length_eq.symm
    obtain ⟨entries', s₂, hrun', hext', hkids'⟩ :=
      ih hext.holds (output ++ w.text n p.returned) (by omega)
    have htrans := hext.trans hext'
    have hprint : w.text n p.printed = "" := by rw [hp]; rfl
    rw [hprint, String.append_empty] at htrans
    refine ⟨entries ++ entries', s₂, ?_, htrans, ?_⟩
    · rw [Engine.runContent_repeatBody_succ _ k output hrun, hrun', times_succ_returned,
        text_append, text_renumber, hlen, String.append_assoc]
    · rw [times_succ_children, List.map_append]
      exact List.rel_append hkids hkids'

/-- Content in filters realizes its plan where nothing is cached. -/
theorem realizes_compose (hw : w.cache = .null) {text : String} (ht : Ordinary text.toList)
    {is : List Item} (h : Item.DefersLead is) :
    w.Realizes (Item.plan is text) (Filter.compose (is.map Item.filter) (.literal text)) := by
  induction is with
  | nil =>
    rw [realizes_iff]
    intro fuel n s _ hs _
    refine ⟨[], s, ?_, .refl hs, .nil⟩
    simp [Filter.compose, Content.literal, Engine.runContent, Item.plan, returned, Setting.text,
      Piece.raw, Piece.join, Piece.renumber]
  | cons i is ih =>
    rw [List.map_cons, Filter.compose_cons]
    cases i with
    | rewrite r =>
      -- No deferral stands to the right, so the text to rewrite is words and holds no marker.
      rw [realizes_iff]
      intro fuel n s hf hs hn
      have hkids := Item.plan_children h text
      have hlinear : (Item.plan is text).Linear :=
        (Item.plan_linear ht is _ (by simp [nodes_eq])).1
      obtain ⟨entries, s', hrun, hext, hentries⟩ :=
        realizes_iff.mp (ih (Item.defersLead_of_not_mem h)) fuel n s hf hs (by rw [hkids]; exact hn)
      rw [hkids] at hentries
      rw [Item.plan_printed] at hext
      refine ⟨entries, s', ?_, hext, hentries⟩
      rw [text_of_childless hlinear hkids] at hrun
      rw [Item.filter_rewrite, Filter.ofText, Engine.runContent_simple_ok _ hrun]
      simp [Item.plan, returned, Setting.text, Piece.raw, Piece.join, Piece.renumber]
    | repeated k =>
      rw [realizes_iff]
      intro fuel n s hf hs hn
      have hprint : w.text n (Item.plan (.repeated k :: is) text).printed = "" := by
        rw [Item.plan_printed]
        rfl
      rw [hprint]
      obtain ⟨entries, s', hrun, hrest⟩ :=
        realizes_repeatBody (ih h) (Item.plan_printed is text) hf hs k "" hn
      rw [String.empty_append] at hrun
      exact ⟨entries, s', hrun, hrest⟩
    | cached key ttl =>
      rw [realizes_iff]
      intro fuel n s hf hs hn
      obtain ⟨entries, s', hrun, hext, hentries⟩ := realizes_iff.mp (ih h) fuel n s hf hs hn
      refine ⟨entries, s', ?_, hext, hentries⟩
      have hget : s.cacheGet key = (none, s) := by simp [State.cacheGet, hs.cache, hw]
      have hset : ∀ value, s'.cacheSet key value ttl = s' := fun value => by
        simp [State.cacheSet, hext.holds.cache, hw]
      rw [Item.filter_cached, Engine.runContent_cached, hget]
      simp only [hrun, Option.bind_some, hset]
      rfl
    | deferred =>
      rw [realizes_iff]
      intro fuel n s _ hs hn
      have hone : n + 1 ≤ MarkerSource.lastNumber := hn
      obtain ⟨s', hdefer, hext⟩ :=
        hs.defer hone (Filter.compose (is.map Item.filter) (.literal text))
      refine ⟨_, s', ?_, hext, .cons (ih h) .nil⟩
      rw [Item.filter_deferred, Filter.deferred_wrap]
      simp only [Engine.runContent, hdefer]
      simp [Content.literal, Engine.runContent, Item.plan, returned, Setting.text, Piece.raw,
        Piece.join, Piece.renumber]

end Setting

end PageFilters
