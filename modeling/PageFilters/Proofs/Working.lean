import PageFilters.Proofs.Occurrence
import PageFilters.Proofs.Workload

namespace PageFilters

/-- What has been printed on a page: the text up to the last flush, the text behind it, and the
contents that wait for their turns there. -/
structure Sheet where
  output : String
  buffer : String
  load : Load

def Sheet.blank : Sheet := ⟨"", "", []⟩

/-- The sheet of a request on which a load waits. -/
def State.sheet (s : State) (load : Load) : Sheet := ⟨s.request.output, s.request.buffer, load⟩

namespace Discipline

/-- What a drain makes of a buffer. The contents that wait take turns: what the first of them
becomes goes where its marker stands first, if it does, and what it leaves to wait goes behind the
others. -/
inductive Drains (k : Discipline) : Load → String → String → Prop
  | nil {buffer : String} : Drains k [] buffer buffer
  | cons {m : Marker} {c : Wrapped} {load load' : Load} {buffer words next text : String}
      {found : Bool} (hcomes : k.Comes c.text c.items words load')
      (hreplaced : Text.Replaced m.text words buffer (next, found))
      (h : Drains k (load ++ load') next text) : Drains k ((m, c) :: load) buffer text

/-- A block is printed: its words go behind the others, and a flush moves them to the output. -/
inductive Prints (k : Discipline) (b : Block) : Sheet → Sheet → Prop
  | kept {output buffer words : String} {load load' : Load} (hb : b.flush = false)
      (hcomes : k.Comes b.text b.items words load') :
      Prints k b ⟨output, buffer, load⟩ ⟨output, buffer ++ words, load ++ load'⟩
  | flushed {output buffer words text : String} {load load' : Load} (hb : b.flush = true)
      (hcomes : k.Comes b.text b.items words load')
      (h : k.Drains (load ++ load') (buffer ++ words) text) :
      Prints k b ⟨output, buffer, load⟩ ⟨output ++ text, "", []⟩

/-- Blocks are printed in turn. -/
inductive PrintsAll (k : Discipline) : List Block → Sheet → Sheet → Prop
  | nil {sheet : Sheet} : PrintsAll k [] sheet sheet
  | cons {b : Block} {bs : List Block} {sheet sheet' sheet'' : Sheet} (h : k.Prints b sheet sheet')
      (hrest : PrintsAll k bs sheet' sheet'') : PrintsAll k (b :: bs) sheet sheet''

/-- A request on which work is done: the contents that wait, the buffer with their markers, and
how the work done compares to the whole of it. -/
structure Working (k : Discipline) (total flushes : Nat) (load : Load) (buffer : String)
    (s : State) : Prop where
  holds : k.Holds s
  stands : load.Stands s.request.queue.pending
  good : k.good load buffer
  weight : load.weight ≤ total
  registered : k.strict → s.tally.registered + load.promise = total
  settled : s.tally.registered = s.tally.resolved + s.tally.missing + load.length
  missing : k.strict → s.tally.missing = 0
  flushes : s.tally.flushes = flushes

/-- A page under way between two blocks. -/
structure Paged (k : Discipline) (total flushes : Nat) (load : Load) (s : State) : Prop where
  working : k.Working total flushes load s.request.buffer s
  shown : k.shown s.request.output

variable {k : Discipline} {total flushes : Nat} {load load' : Load} {buffer words : String}
  {s s' : State}

theorem Working.of_request {t : State} (h : k.Working total flushes load buffer s)
    (hholds : k.Holds t) (hq : t.request.queue.pending = s.request.queue.pending)
    (hn : t.tally = s.tally) : k.Working total flushes load buffer t where
  holds := hholds
  stands := hq ▸ h.stands
  good := h.good
  weight := h.weight
  registered := hn ▸ h.registered
  settled := hn ▸ h.settled
  missing := hn ▸ h.missing
  flushes := hn ▸ h.flushes

theorem substitute_tally (s : State) (p : Pending) (text buffer : String) :
    (s.substitute p text buffer).2.tally =
      if (Text.substituteFirst p.marker.text text buffer).isSome then
        { s.tally with resolved := s.tally.resolved + 1 }
      else { s.tally with missing := s.tally.missing + 1 } := by
  unfold State.substitute
  cases Text.substituteFirst p.marker.text text buffer with
  | some buffer => exact s.record_tally _
  | none => exact s.record_tally _

/-- The turn of the first content that waits: less work is left by its own turn, and what it leaves
to wait is part of the work that it was. -/
theorem Working.turn (lawful : k.Lawful) {m : Marker} {c : Wrapped} {p : Pending}
    {rest : List Pending} (h : k.Working total flushes ((m, c) :: load) buffer s)
    (hm : p.marker = m) (stands : load.Stands rest) (hcomes : k.Comes c.text c.items words load')
    (hregisters : k.Registers (s.start p rest) load' s') :
    k.Working total flushes (load ++ load') (s'.substitute p words buffer).1
      (s'.substitute p words buffer).2 := by
  obtain ⟨entries, hpending, hentries⟩ := hregisters.pending
  obtain ⟨event, hrecord⟩ := s'.substitute_snd p words buffer
  have hrequest : (s'.substitute p words buffer).2.request = s'.request := by rw [hrecord]; rfl
  have hcache : (s'.substitute p words buffer).2.cache = s'.cache := by rw [hrecord]; rfl
  have hstart : (s.start p rest).tally = s.tally := State.record_tally _ _
  have htally := hregisters.tally
  rw [hstart] at htally
  have hle := hcomes.weight_le
  have hweight := h.weight
  have hregistered := h.registered
  have hsettled := h.settled
  simp only [Load.weight_cons, Load.promise_cons, List.length_cons] at hweight hregistered hsettled
  have hlength := load'.weight_eq
  refine ⟨hregisters.holds.of_request hrequest (by rw [hcache]), ?_, ?_, ?_, ?_, ?_, ?_, ?_⟩
  · rw [hrequest, hpending]
    exact List.rel_append stands hentries
  · rw [State.substitute_fst, hm]
    exact lawful.turn h.good hcomes
  · rw [Load.weight_append]
    omega
  · intro hk
    have heq := hcomes.weight_eq hk
    have := hregistered hk
    rw [substitute_tally, htally, Load.promise_append]
    split
    all_goals
      simp only
      omega
  · rw [substitute_tally, htally, List.length_append]
    split
    all_goals
      simp only
      omega
  · intro hk
    have hfound := lawful.found hk h.good words
    rw [substitute_tally, hm, if_pos hfound, htally]
    exact h.missing hk
  · rw [substitute_tally, htally]
    split
    all_goals exact h.flushes

/-- A drain does all the work there is. -/
theorem Working.drain (lawful : k.Lawful) (fuel position : Nat) (hf : load.weight < fuel)
    (h : k.Working total flushes load buffer s) :
    ∃ text s', (Engine.ofFuel fuel).drain position buffer s = some (.ok (), text, s') ∧
      k.Working total flushes [] text s' ∧ k.Drains load buffer text ∧
      s'.request.buffer = s.request.buffer ∧ s'.request.output = s.request.output := by
  -- On fuel: what a content leaves to wait weighs less than the content did.
  induction fuel generalizing position load buffer s with
  | zero => omega
  | succ fuel ih =>
    cases load with
    | nil =>
      have hq : s.request.queue.pending = [] := List.forall₂_nil_left_iff.mp h.stands
      exact ⟨buffer, s.finishDrain, Engine.drain_nil hq,
        h.of_request ⟨h.holds.filters, h.holds.source, h.holds.unfinished, h.holds.cache⟩ rfl rfl,
        .nil, rfl, rfl⟩
    | cons c load =>
      obtain ⟨m, c⟩ := c
      obtain ⟨p, rest, ⟨rfl, hproducer⟩, stands, hq⟩ := List.forall₂_cons_left_iff.mp h.stands
      have hstart : k.Holds (s.start p rest) :=
        ⟨h.holds.filters, h.holds.source, h.holds.unfinished, h.holds.cache⟩
      obtain ⟨words, load', s₁, hrun, hcomes, hregisters⟩ :=
        lawful.run (Engine.ofFuel fuel) c.text c.items hstart
      have hturn := h.turn lawful rfl stands hcomes hregisters
      have hle := hcomes.weight_le
      simp only [Load.weight_cons] at hf
      obtain ⟨text, s', hdrain, hworking, hdrains, hbuffer, houtput⟩ :=
        ih (position + 1) (by rw [Load.weight_append]; omega) hturn
      have hreplaced := Text.replaced_substitute p.marker.text words buffer
      obtain ⟨event, hrecord⟩ := s₁.substitute_snd p words buffer
      rw [State.substitute_fst, ← Text.substitute_fst] at hdrains
      rw [hrecord] at hdrain hbuffer houtput
      refine ⟨text, s', ?_, hworking, .cons hcomes hreplaced hdrains,
        hbuffer.trans hregisters.buffer, houtput.trans hregisters.output⟩
      change (Engine.ofFuel fuel).runDrain position buffer s = _
      rw [Engine.runDrain, State.next?_cons hq]
      simp only [hproducer, hrun, hrecord, Option.bind_eq_bind, Option.bind_some]
      exact hdrain

theorem Working.unload (h : k.Working total flushes load buffer s) :
    k.Working total flushes load buffer { s with request.buffer := "" } :=
  h.of_request ⟨h.holds.filters, h.holds.source, h.holds.unfinished, h.holds.cache⟩ rfl rfl

namespace Paged

/-- Text printed on a page adds the work of the content that it came from. -/
theorem print (lawful : k.Lawful) {c : Wrapped} (h : k.Paged total flushes load s)
    (hfit : k.fit c) (hcomes : k.Comes c.text c.items words load')
    (hregisters : k.Registers s load' s') :
    k.Paged (total + Item.defers c.items) flushes (load ++ load') (s'.print words) := by
  obtain ⟨entries, hpending, hentries⟩ := hregisters.pending
  have htally := hregisters.tally
  have hprint : (s'.print words).tally = s'.tally := rfl
  have hle := hcomes.weight_le
  have hlength := load'.weight_eq
  have hweight := h.working.weight
  have hsettled := h.working.settled
  have hholds := hregisters.holds
  refine ⟨⟨⟨hholds.filters, hholds.source, hholds.unfinished, hholds.cache⟩,
    ?_, ?_, ?_, ?_, ?_, ?_, ?_⟩, ?_⟩
  · change Load.Stands _ s'.request.queue.pending
    rw [hpending]
    exact List.rel_append h.working.stands hentries
  · change k.good _ (s'.request.buffer ++ words)
    rw [hregisters.buffer]
    exact lawful.print hfit h.working.good hcomes
  · rw [Load.weight_append]
    omega
  · intro hk
    have heq := hcomes.weight_eq hk
    have := h.working.registered hk
    rw [hprint, htally, Load.promise_append]
    simp only
    omega
  · rw [hprint, htally, List.length_append]
    simp only
    omega
  · intro hk
    rw [hprint, htally]
    exact h.working.missing hk
  · rw [hprint, htally]
    exact h.working.flushes
  · change k.shown s'.request.output
    rw [hregisters.output]
    exact h.shown

theorem flush (lawful : k.Lawful) (h : k.Paged total flushes load s) (fuel : Nat)
    (hf : total < fuel) :
    ∃ text s', (Engine.ofFuel fuel).flushBuffer s = some (.ok (), s') ∧
      k.Paged total (flushes + 1) [] s' ∧ k.Drains load s.request.buffer text ∧
      s'.request.output = s.request.output ++ text ∧ s'.request.buffer = "" ∧
      s'.request.queue.pending = [] := by
  have hweight := h.working.weight
  obtain ⟨text, s₁, hdrain, hworking, hdrains, hbuffer, houtput⟩ :=
    h.working.unload.drain lawful fuel 0 (by omega)
  have hemit : s₁.request.output ++ text = s.request.output ++ text := by rw [houtput]
  have hholds := hworking.holds
  have hnil : s₁.request.queue.pending = [] := List.forall₂_nil_left_iff.mp hworking.stands
  have htally := State.record_tally
    { s₁ with request.output := s₁.request.output ++ text } .flushed
  refine ⟨text, _, Engine.flushBuffer_ok hdrain, ⟨⟨⟨hholds.filters, hholds.source,
    hholds.unfinished, hholds.cache⟩, hworking.stands, ?_, hworking.weight, ?_, ?_, ?_, ?_⟩, ?_⟩,
    hdrains, hemit, hbuffer, hnil⟩
  · change k.good [] s₁.request.buffer
    rw [hbuffer]
    exact lawful.blank
  · rw [htally]
    exact hworking.registered
  · rw [htally]
    exact hworking.settled
  · rw [htally]
    exact hworking.missing
  · rw [htally]
    exact congrArg (· + 1) hworking.flushes
  · change k.shown (s₁.request.output ++ text)
    rw [hemit]
    exact lawful.emit h.shown hworking.good

theorem finish (lawful : k.Lawful) (h : k.Paged total flushes load s) (fuel : Nat)
    (hf : total + 1 < fuel) :
    ∃ text s', (Engine.ofFuel fuel).finish s = some (.ok text, s') ∧
      (∃ last, k.Drains load s.request.buffer last ∧ text = s.request.output ++ last) ∧
      k.shown text ∧ s'.tally.registered = s'.tally.resolved + s'.tally.missing ∧
      (k.strict → s'.tally.registered = total ∧ s'.tally.missing = 0) ∧
      s'.tally.flushes = flushes + 1 := by
  obtain ⟨fuel, rfl⟩ : ∃ f, fuel = f + 1 := ⟨fuel - 1, by omega⟩
  obtain ⟨last, s₁, hflush, hpaged, hdrains, houtput, hbuffer, hnil⟩ :=
    h.flush lawful fuel (by omega)
  have hsettle := Engine.settle_done hflush hbuffer hnil
  have hfinish := Engine.finish_ok h.working.holds.unfinished hsettle
  have hworking := hpaged.working
  exact ⟨s₁.request.output, _, hfinish, ⟨last, hdrains, houtput⟩, hpaged.shown, hworking.settled,
    fun hk => ⟨hworking.registered hk, hworking.missing hk⟩, hworking.flushes⟩

/-- A block whose filters are known is rendered, and printed on the sheet. -/
theorem block (lawful : k.Lawful) (h : k.Paged total flushes load s) {b : Block}
    (hitems : b.items? = some b.items) (hfit : k.fit ⟨b.items, b.text⟩) (fuel : Nat)
    (hf : total + Item.defers b.items < fuel) (index : Nat) :
    ∃ load' s', b.render (.ofFuel fuel) index s = some (.ok (), s') ∧
      k.Paged (total + Item.defers b.items) (flushes + if b.flush then 1 else 0) load' s' ∧
      k.Prints b (s.sheet load) (s'.sheet load') := by
  obtain ⟨words, load', s₁, hrun, hcomes, hregisters⟩ :=
    lawful.run (Engine.ofFuel fuel) b.text b.items h.working.holds
  have hprint := h.print lawful hfit hcomes hregisters
  have hresolve : b.resolve s.request.filters = .ok (b.items.map Item.filter) := by
    rw [h.working.holds.filters]
    exact Block.resolve_of_items hitems
  have hbuffer : (s₁.print words).request.buffer = s.request.buffer ++ words :=
    congrArg (· ++ words) hregisters.buffer
  have houtput : (s₁.print words).request.output = s.request.output := hregisters.output
  cases hb : b.flush with
  | true =>
    obtain ⟨text, s₂, hflush, hpaged, hdrains, hemit, hnone, _⟩ := hprint.flush lawful fuel hf
    rw [hbuffer] at hdrains
    refine ⟨[], s₂, Block.render_flush hresolve hrun hb hflush, hpaged, ?_⟩
    rw [State.sheet, State.sheet, hemit, hnone, houtput]
    exact .flushed hb hcomes hdrains
  | false =>
    refine ⟨_, _, Block.render_print hresolve hrun hb, hprint, ?_⟩
    rw [State.sheet, State.sheet, hbuffer, houtput]
    exact .kept hb hcomes

theorem blocks (lawful : k.Lawful) (h : k.Paged total flushes load s) {bs : List Block}
    (hbs : ∀ b ∈ bs, b.items? = some b.items ∧ k.fit ⟨b.items, b.text⟩) (fuel : Nat)
    (hf : total + Block.totalDefers bs < fuel) (index : Nat) :
    ∃ load' s', Block.renderAll (.ofFuel fuel) index bs s = some (.ok (), s') ∧
      k.Paged (total + Block.totalDefers bs) (flushes + bs.countP Block.flush) load' s' ∧
      k.PrintsAll bs (s.sheet load) (s'.sheet load') := by
  induction bs generalizing total flushes load s index with
  | nil => exact ⟨load, s, rfl, h, .nil⟩
  | cons b bs ih =>
    obtain ⟨hitems, hfit⟩ := hbs b List.mem_cons_self
    rw [Block.totalDefers, Block.countDefers_eq hitems] at hf ⊢
    obtain ⟨load₁, s₁, hrun, h₁, hprints⟩ := h.block lawful hitems hfit fuel (by omega) index
    obtain ⟨load₂, s₂, hrest, h₂, hall⟩ :=
      ih h₁ (fun b' hb' => hbs b' (List.mem_cons_of_mem b hb')) (by omega) (index + 1)
    refine ⟨load₂, s₂, (Block.renderAll_cons bs hrun).trans hrest, ?_, .cons hprints hall⟩
    rw [List.countP_cons, Nat.add_comm (bs.countP _), ← Nat.add_assoc, ← Nat.add_assoc]
    exact h₂

end Paged

theorem paged_new {markers : MarkerSource} {cache : Cache} (lawful : k.Lawful)
    (hsource : k.source markers) (hcache : k.strict → cache.setup? = none) (hshown : k.shown "") :
    k.Paged 0 0 [] { request := { filters := .standard, markers }, cache } where
  working :=
    { holds := ⟨rfl, hsource, rfl, hcache⟩
      stands := .nil
      good := lawful.blank
      weight := Nat.le_refl 0
      registered := fun _ => rfl
      settled := rfl
      missing := fun _ => rfl
      flushes := rfl }
  shown := hshown

end Discipline

end PageFilters
