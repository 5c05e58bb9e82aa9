import PageFilters.Proofs.Watch
import Mathlib.Data.List.Perm.Basic

namespace PageFilters

namespace Event

def registered? : Event → Option Nat
  | registered ticket => some ticket
  | _ => none

def started? : Event → Option Nat
  | started ticket => some ticket
  | _ => none

def resolved? : Event → Option Nat
  | resolved ticket => some ticket
  | _ => none

def markerMissing? : Event → Option Nat
  | markerMissing ticket => some ticket
  | _ => none

def failed? : Event → Option Nat
  | failed ticket => some ticket
  | _ => none

def discarded? : Event → Option Nat
  | discarded ticket => some ticket
  | _ => none

end Event

/-- The producers of a request by what has become of them, the latest first. -/
structure Ledger where
  /-- The number of the producer registered last. -/
  issued : Nat
  registered : List Nat
  started : List Nat
  resolved : List Nat
  markerMissing : List Nat
  failed : List Nat
  discarded : List Nat
  /-- Those that wait, the one to run next in front. -/
  waiting : List Nat

def State.ledger (s : State) : Ledger where
  issued := s.request.queue.registered
  registered := s.journal.filterMap Event.registered?
  started := s.journal.filterMap Event.started?
  resolved := s.journal.filterMap Event.resolved?
  markerMissing := s.journal.filterMap Event.markerMissing?
  failed := s.journal.filterMap Event.failed?
  discarded := s.journal.filterMap Event.discarded?
  waiting := s.request.queue.pending.map Pending.ticket

namespace Ledger

/-- Those whose turn is over. -/
def ended (l : Ledger) : List Nat := l.resolved ++ l.markerMissing ++ l.failed

/-- What a single change may do to the ledger. -/
inductive Posts : Ledger → Ledger → Prop
  | keep {l : Ledger} : Posts l l
  | register {l : Ledger} :
      Posts l { l with
        issued := l.issued + 1
        registered := (l.issued + 1) :: l.registered
        waiting := l.waiting ++ [l.issued + 1] }
  | start {l : Ledger} {ticket : Nat} {rest : List Nat} (h : l.waiting = ticket :: rest) :
      Posts l { l with started := ticket :: l.started, waiting := rest }
  | resolve {l : Ledger} (ticket : Nat) : Posts l { l with resolved := ticket :: l.resolved }
  | miss {l : Ledger} (ticket : Nat) :
      Posts l { l with markerMissing := ticket :: l.markerMissing }
  | abandon {l : Ledger} (ticket : Nat) :
      Posts l { l with
        failed := ticket :: l.failed
        discarded := l.waiting.reverse ++ l.discarded
        waiting := [] }

/-- What holds of a ledger at any time. -/
structure Sound (l : Ledger) : Prop where
  /-- Numbers are given out in order. -/
  registered : l.registered.reverse = List.range' 1 l.issued
  /-- Producers start in the order of their numbers, and those that wait come after them. -/
  order : (l.started.reverse ++ l.waiting).Pairwise (· < ·)
  accounted : l.registered.Perm (l.started ++ l.discarded ++ l.waiting)

/-- As many turns were ended between two ledgers as were begun, producer by producer. -/
def Balanced (l l' : Ledger) : Prop :=
  ∀ ticket, l'.started.count ticket + l.ended.count ticket =
    l.started.count ticket + l'.ended.count ticket

variable {l l' l'' : Ledger}

theorem Sound.le_issued (h : l.Sound) {ticket : Nat}
    (ht : ticket ∈ l.started.reverse ++ l.waiting) : ticket ≤ l.issued := by
  have hmem : ticket ∈ l.registered := by
    refine h.accounted.mem_iff.mpr ?_
    simp only [List.mem_append, List.mem_reverse] at ht ⊢
    tauto
  rw [← List.mem_reverse, h.registered, List.mem_range'_1] at hmem
  omega

theorem Posts.sound (h : Posts l l') (hl : l.Sound) : l'.Sound := by
  cases h with
  | keep => exact hl
  | register =>
    refine ⟨?_, ?_, ?_⟩
    · rw [List.reverse_cons, hl.registered, List.range'_concat, Nat.one_mul, Nat.add_comm]
    · rw [← List.append_assoc]
      refine List.pairwise_append.mpr ⟨hl.order, List.pairwise_singleton _ _, ?_⟩
      intro ticket ht last hlast
      have := hl.le_issued ht
      rw [List.mem_singleton.mp hlast]
      omega
    · rw [← List.append_assoc]
      exact (hl.accounted.cons _).trans (List.perm_append_singleton _ _).symm
  | @start ticket rest hw =>
    have horder := hl.order
    have haccounted := hl.accounted
    rw [hw] at horder haccounted
    refine ⟨hl.registered, ?_, ?_⟩
    · simpa using horder
    · exact haccounted.trans List.perm_middle
  | resolve ticket => exact ⟨hl.registered, hl.order, hl.accounted⟩
  | miss ticket => exact ⟨hl.registered, hl.order, hl.accounted⟩
  | abandon ticket =>
    refine ⟨hl.registered, ?_, ?_⟩
    · rw [List.append_nil]
      exact (List.pairwise_append.mp hl.order).1
    · refine hl.accounted.trans (List.perm_iff_count.mpr fun t => ?_)
      simp only [List.count_append, List.count_reverse, List.count_nil]
      omega

theorem Balanced.refl (l : Ledger) : l.Balanced l := fun _ => rfl

theorem Balanced.trans (h : l.Balanced l') (h' : l'.Balanced l'') : l.Balanced l'' := by
  intro ticket
  have := h ticket
  have := h' ticket
  omega

end Ledger

namespace State

theorem cacheGet_ledger (s : State) (key : String) : (s.cacheGet key).2.ledger = s.ledger := by
  unfold cacheGet
  split
  next => rfl
  next m _ => cases m.get key with | mk found m' => cases found <;> rfl

theorem cacheSet_ledger (s : State) (key value : String) (ttl : Option Nat) :
    (s.cacheSet key value ttl).ledger = s.ledger := by
  obtain ⟨_, hset⟩ | ⟨m, _, hset⟩ := s.cacheSet_cases key value ttl
  · rw [hset]
  · rw [hset]
    simp [ledger, Event.registered?, Event.started?, Event.resolved?,
      Event.markerMissing?, Event.failed?, Event.discarded?]

theorem abandon_ledger (s : State) (ticket : Nat) : (s.abandon ticket).ledger = { s.ledger with
    failed := ticket :: s.ledger.failed
    discarded := s.ledger.waiting.reverse ++ s.ledger.discarded
    waiting := [] } := by
  simp [ledger, abandon, Queue.abandon, Function.comp_def, List.filterMap_cons, Event.registered?,
    Event.started?, Event.resolved?, Event.markerMissing?, Event.failed?, Event.discarded?]

theorem Change.posts {s s' : State} (h : Change s s') : s.ledger.Posts s'.ledger := by
  cases h with
  | cacheGet key =>
    rw [cacheGet_ledger]
    exact .keep
  | cacheSet key value ttl =>
    rw [cacheSet_ledger]
    exact .keep
  | defer producer =>
    obtain ⟨_, hdefer⟩ | ⟨_, marker, markers, _, hdefer⟩ := s.defer_cases producer
    · rw [hdefer]
      exact .keep
    · rw [hdefer]
      have hwaiting : (s.request.queue.push marker producer).pending.map Pending.ticket =
          s.ledger.waiting ++ [s.ledger.issued + 1] := List.map_append
      have hpost := Ledger.Posts.register (l := s.ledger)
      rw [← hwaiting] at hpost
      exact hpost
  | take hnext =>
    obtain ⟨_, hnone⟩ | ⟨p, rest, hq, hsome⟩ := s.next?_cases
    · rw [hnone] at hnext
      cases hnext
    · rw [hsome] at hnext
      cases hnext
      refine @Ledger.Posts.start _ _ (rest.map Pending.ticket) ?_
      rw [ledger, hq, List.map_cons]
  | substitute p text buffer =>
    unfold State.substitute
    split
    next => exact .resolve p.ticket
    next => exact .miss p.ticket
  | abandon ticket =>
    rw [abandon_ledger]
    exact .abandon ticket
  | _ => exact .keep

theorem Leads.sound_ledger {s s' : State} (h : s.Leads s') (hs : s.ledger.Sound) :
    s'.ledger.Sound :=
  leads_of_invariant (fun _ _ hchange => hchange.posts.sound) h hs

theorem defer_balanced (s : State) (producer : Content) :
    s.ledger.Balanced (s.defer producer).2.ledger := by
  obtain ⟨_, hdefer⟩ | ⟨_, _, _, _, hdefer⟩ := s.defer_cases producer
  · rw [hdefer]
    exact .refl _
  · rw [hdefer]
    exact fun _ => rfl

theorem resolve_ledger (s : State) (call : Call) : (s.resolve call).2.ledger = s.ledger :=
  resolve_keeps ledger (fun _ _ => rfl) s call

theorem start_substitute_balanced {s s' : State} {p : Pending} {rest : List Pending}
    (h : (s.start p rest).ledger.Balanced s'.ledger) (text buffer : String) :
    s.ledger.Balanced (s'.substitute p text buffer).2.ledger := by
  intro ticket
  have hturn := h ticket
  have hstarted : (s.start p rest).ledger.started = p.ticket :: s.ledger.started := rfl
  have hended : (s.start p rest).ledger.ended = s.ledger.ended := rfl
  rw [hstarted, hended, List.count_cons] at hturn
  have hsubstitute : (s'.substitute p text buffer).2.ledger.started = s'.ledger.started ∧
      (s'.substitute p text buffer).2.ledger.ended.count ticket =
        s'.ledger.ended.count ticket + if p.ticket == ticket then 1 else 0 := by
    unfold substitute
    split
    next => exact ⟨rfl, List.count_cons⟩
    next =>
      refine ⟨rfl, ?_⟩
      change ((s'.ledger.resolved ++ p.ticket :: s'.ledger.markerMissing) ++
        s'.ledger.failed).count ticket = _
      simp only [Ledger.ended, List.count_append, List.count_cons]
      omega
  rw [hsubstitute.1, hsubstitute.2]
  omega

theorem start_abandon_balanced {s s' : State} {p : Pending} {rest : List Pending}
    (h : (s.start p rest).ledger.Balanced s'.ledger) :
    s.ledger.Balanced (s'.abandon p.ticket).ledger := by
  intro ticket
  have hturn := h ticket
  have hstarted : (s.start p rest).ledger.started = p.ticket :: s.ledger.started := rfl
  have hended : (s.start p rest).ledger.ended = s.ledger.ended := rfl
  rw [hstarted, hended, List.count_cons] at hturn
  rw [abandon_ledger]
  change s'.ledger.started.count ticket + _ =
    _ + (s'.ledger.resolved ++ s'.ledger.markerMissing ++
      p.ticket :: s'.ledger.failed).count ticket
  simp only [Ledger.ended, List.count_append, List.count_cons] at hturn ⊢
  omega

end State

namespace Engine

/-- The parts of a run that leave a content program end every turn that begins in them. -/
structure Closing (e : Engine) : Prop where
  render : ∀ {c s r s'}, e.render c s = some (r, s') → s.ledger.Balanced s'.ledger
  drain : ∀ {position buffer s r buffer' s'},
    e.drain position buffer s = some (r, buffer', s') → s.ledger.Balanced s'.ledger
  settle : ∀ {s r s'}, e.settle s = some (r, s') → s.ledger.Balanced s'.ledger

namespace Closing

variable {e : Engine} (closing : e.Closing)

include closing

theorem flushBuffer {s s' : State} {r : Except RenderError Unit}
    (h : e.flushBuffer s = some (r, s')) : s.ledger.Balanced s'.ledger := by
  obtain ⟨⟨result, buffer, s₁⟩, hdrain, h⟩ := Option.bind_eq_some_iff.mp h
  have hbalanced := closing.drain hdrain
  cases result with
  | ok _ =>
    cases h
    exact hbalanced
  | error error =>
    cases h
    exact hbalanced

theorem flushDeferred {buffer : String} {s s' : State} {r : RenderResult}
    (h : e.flushDeferred buffer s = some (r, s')) : s.ledger.Balanced s'.ledger := by
  obtain ⟨⟨result, text, s₁⟩, hdrain, h⟩ := Option.bind_eq_some_iff.mp h
  cases h
  exact closing.drain hdrain

theorem finish {s s' : State} {r : RenderResult} (h : e.finish s = some (r, s')) :
    s.ledger.Balanced s'.ledger := by
  unfold Engine.finish at h
  split at h
  next =>
    cases h
    exact .refl _
  next =>
    obtain ⟨⟨result, s₁⟩, hsettle, h⟩ := Option.bind_eq_some_iff.mp h
    have hbalanced := closing.settle hsettle
    cases result with
    | ok _ =>
      cases h
      exact hbalanced
    | error error =>
      cases h
      exact hbalanced

theorem perform {op : Op} {s s' : State} {a : op.Answer} (h : e.perform op s = some (a, s')) :
    s.ledger.Balanced s'.ledger := by
  cases op with
  | cacheGet key =>
    have hs : s' = (s.cacheGet key).2 := (congrArg Prod.snd (Option.some.inj h)).symm
    rw [hs, State.cacheGet_ledger]
    exact .refl _
  | cacheSet key value ttl =>
    cases h
    rw [State.cacheSet_ledger]
    exact .refl _
  | lookup call =>
    have hs : s' = (s.resolve call).2 := (congrArg Prod.snd (Option.some.inj h)).symm
    rw [hs, State.resolve_ledger]
    exact .refl _
  | flushBuffer => exact closing.flushBuffer h
  | flushDeferred buffer => exact closing.flushDeferred h
  | finish => exact closing.finish h
  | _ =>
    cases h
    exact .refl _

theorem invoke {call : Call} {inner : Content} {s s' : State} {r : RenderResult}
    (h : e.invoke call inner s = some (r, s')) : s.ledger.Balanced s'.ledger := by
  have hresolve := s.resolve_ledger call
  unfold Engine.invoke at h
  split at h
  next filters s₁ heq =>
    rw [heq] at hresolve
    rw [← hresolve]
    exact closing.render h
  next error s₁ heq =>
    rw [heq] at hresolve
    cases h
    rw [hresolve]
    exact .refl _

theorem runContent {c : Content} {s s' : State} {r : RenderResult}
    (h : e.runContent c s = some (r, s')) : s.ledger.Balanced s'.ledger := by
  induction c generalizing s with
  | done result =>
    cases h
    exact .refl _
  | perform op next ih =>
    obtain ⟨⟨answer, s₁⟩, hop, h⟩ := Option.bind_eq_some_iff.mp h
    exact (closing.perform hop).trans (ih answer h)
  | defer producer next _ ih => exact (s.defer_balanced producer).trans (ih _ h)
  | yield next ih => exact ih _ h
  | invoke call inner next _ ih =>
    obtain ⟨⟨result, s₁⟩, hcall, h⟩ := Option.bind_eq_some_iff.mp h
    exact (closing.invoke hcall).trans (ih result h)

theorem runDrain {position : Nat} {buffer buffer' : String} {s s' : State}
    {r : Except RenderError Unit} (h : e.runDrain position buffer s = some (r, buffer', s')) :
    s.ledger.Balanced s'.ledger := by
  unfold Engine.runDrain at h
  obtain ⟨_, hnext⟩ | ⟨p, rest, _, hnext⟩ := s.next?_cases
  · rw [hnext] at h
    cases h
    exact .refl _
  · rw [hnext] at h
    obtain ⟨⟨result, s₁⟩, hrun, h⟩ := Option.bind_eq_some_iff.mp h
    have hturn := closing.runContent hrun
    cases result with
    | ok text => exact (State.start_substitute_balanced hturn text buffer).trans (closing.drain h)
    | error error =>
      cases h
      exact State.start_abandon_balanced hturn

theorem runSettle {s s' : State} {r : Except RenderError Unit}
    (h : e.runSettle s = some (r, s')) : s.ledger.Balanced s'.ledger := by
  obtain ⟨⟨result, s₁⟩, hflush, h⟩ := Option.bind_eq_some_iff.mp h
  have hbalanced := closing.flushBuffer hflush
  cases result with
  | error error =>
    cases h
    exact hbalanced
  | ok _ =>
    simp only at h
    split at h
    next =>
      cases h
      exact hbalanced
    next => exact hbalanced.trans (closing.settle h)

end Closing

theorem closing_ofFuel (fuel : Nat) : (ofFuel fuel).Closing := by
  induction fuel with
  | zero => exact ⟨nofun, nofun, nofun⟩
  | succ fuel ih => exact ⟨ih.runContent, ih.runDrain, ih.runSettle⟩

theorem printResult_ledger {out out' : RenderResult × State} (h : printResult out = out') :
    out'.2.ledger = out.2.ledger := by
  obtain ⟨result, s⟩ := out
  cases result with
  | ok text =>
    cases h
    rfl
  | error error =>
    cases h
    rfl

theorem Closing.act {e : Engine} (closing : e.Closing) {a : Action} {s s' : State}
    {r : RenderResult} (h : e.act a s = some (r, s')) : s.ledger.Balanced s'.ledger := by
  cases a with
  | print text =>
    cases h
    exact .refl _
  | defer producer =>
    cases h
    exact s.defer_balanced producer
  | render filters content => exact closing.runContent h
  | filter filters content =>
    obtain ⟨⟨result, s₁⟩, hrun, hout⟩ := Option.map_eq_some_iff.mp h
    rw [printResult_ledger hout]
    exact closing.runContent hrun
  | pipe list text =>
    obtain ⟨⟨result, s₁⟩, hcall, hout⟩ := Option.map_eq_some_iff.mp h
    rw [printResult_ledger hout]
    exact closing.invoke hcall
  | flushBuffer =>
    obtain ⟨⟨result, s₁⟩, hflush, h⟩ := Option.bind_eq_some_iff.mp h
    cases h
    exact closing.flushBuffer hflush
  | flushDeferred buffer => exact closing.flushDeferred h
  | finish => exact closing.finish h

end Engine

/-- How often events of a kind have been counted. -/
def State.counted (s : State) (name : String) : Nat :=
  s.journal.countP fun event => event.metric? == some name

theorem State.counted_eq_length {α : Type} {name : String} {project : Event → Option α} (s : State)
    (h : ∀ event, (event.metric? == some name) = (project event).isSome) :
    s.counted name = (s.journal.filterMap project).length := by
  rw [counted, List.length_filterMap_eq_countP]
  exact List.countP_congr fun event _ => by rw [h event]

theorem State.counted_ledger (s : State) :
    s.counted "mason_defer_registered_total" = s.ledger.registered.length ∧
    s.counted "mason_defer_resolved_total" = s.ledger.resolved.length ∧
    s.counted "mason_defer_marker_missing_total" = s.ledger.markerMissing.length := by
  refine ⟨s.counted_eq_length ?_, s.counted_eq_length ?_, s.counted_eq_length ?_⟩
  all_goals
    intro event
    cases event <;> rfl

variable {filters : Registry} {markers : MarkerSource} {cache : Cache}

theorem Reached.ledger {s : State} (h : Reached filters markers cache s) :
    s.ledger.Sound ∧ s.ledger.started.Perm s.ledger.ended := by
  induction h with
  | new => exact ⟨⟨rfl, .nil, .nil⟩, .nil⟩
  | @act s s' a r fuel _ hact ih =>
    have hleads := ((Engine.lawful_ofFuel fuel).act hact).leads
    have hbalanced := (Engine.closing_ofFuel fuel).act hact
    refine ⟨State.Leads.sound_ledger hleads ih.1, ?_⟩
    refine List.perm_iff_count.mpr fun ticket => ?_
    have := hbalanced ticket
    have := List.perm_iff_count.mp ih.2 ticket
    omega

/-- No producer runs twice, out of order or gets lost, whatever contents and producers do on the
request. The first part holds in the middle of calls as well, also of one that never returns; the
second whenever a call on the request has returned. -/
theorem Ledger.audit (filters : Registry) (markers : MarkerSource) (cache : Cache) :
    (∀ fuel as,
      let l := (Watch.life fuel filters markers cache as).state.ledger
      l.registered.reverse = List.range' 1 l.issued ∧ l.started ⊆ l.registered ∧
        l.started.reverse.Pairwise (· < ·)) ∧
    ∀ s, Reached filters markers cache s →
      s.ledger.registered.Perm (s.ledger.ended ++ s.ledger.discarded ++ s.ledger.waiting) ∧
      s.counted "mason_defer_registered_total" =
        s.counted "mason_defer_resolved_total" + s.counted "mason_defer_marker_missing_total" +
          s.ledger.failed.length + s.ledger.discarded.length + s.request.queue.size := by
  refine ⟨fun fuel as => ?_, fun s h => ?_⟩
  · have hsound : (Watch.life fuel filters markers cache as).state.ledger.Sound :=
      State.leads_of_invariant (fun _ _ hchange => hchange.posts.sound)
        (Watch.life_since fuel filters markers cache as).leads ⟨rfl, .nil, .nil⟩
    refine ⟨hsound.registered, fun ticket ht => ?_, (List.pairwise_append.mp hsound.order).1⟩
    exact hsound.accounted.mem_iff.mpr (List.mem_append_left _ (List.mem_append_left _ ht))
  · obtain ⟨hsound, hended⟩ := h.ledger
    have hfates := hsound.accounted.trans
      ((hended.append_right s.ledger.discarded).append_right s.ledger.waiting)
    refine ⟨hfates, ?_⟩
    obtain ⟨hregistered, hresolved, hmissing⟩ := s.counted_ledger
    have hlength := hfates.length_eq
    have hwaiting : s.ledger.waiting.length = s.request.queue.size := List.length_map _
    simp only [Ledger.ended, List.length_append] at hlength
    omega

/-- Four producers: one whose text is printed, one that fails, one behind it that is given up, and
one that is registered afterwards. -/
theorem Ledger.audit_failure :
    ∃ s, Reached {} (.distinct "n" 0) .null s ∧
      s.ledger.registered = [4, 3, 2, 1] ∧ s.ledger.ended = [1, 2] ∧ s.ledger.discarded = [3] ∧
      s.ledger.waiting = [4] ∧
      s.counted "mason_defer_registered_total" =
        s.counted "mason_defer_resolved_total" + s.counted "mason_defer_marker_missing_total" +
          s.ledger.failed.length + s.ledger.discarded.length + s.request.queue.size := by
  have hfails : ∃ s, Reached {} (.distinct "n" 0) .null s ∧ s.ledger.registered = [4, 3, 2, 1] ∧
      s.ledger.ended = [1, 2] ∧ s.ledger.discarded = [3] ∧ s.ledger.waiting = [4] := by
    have hnew := @Reached.new {} (.distinct "n" 0) .null
    have hprint := hnew.act (a := .print (Marker.numbered "n" 1).text) 4 rfl
    have hfirst := hprint.act (a := .defer (.literal "text")) 4 rfl
    have hfailing := hfirst.act (a := .defer (.fail .requestFinished)) 4 rfl
    have hbehind := hfailing.act (a := .defer (.literal "lost")) 4 rfl
    have hflushed := hbehind.act (a := .flushBuffer) 4 rfl
    have hlast := hflushed.act (a := .defer (.literal "later")) 4 rfl
    exact ⟨_, hlast, by decide, by decide, by decide, by decide⟩
  obtain ⟨s, hs, hregistered, hended, hdiscarded, hwaiting⟩ := hfails
  exact ⟨s, hs, hregistered, hended, hdiscarded, hwaiting,
    ((audit {} (.distinct "n" 0) .null).2 s hs).2⟩

end PageFilters
