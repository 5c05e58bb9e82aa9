import PageFilters.Proofs.Lifecycle

namespace PageFilters.Queue

/-- A call on a queue. -/
inductive Move where
  | push (marker : Marker) (producer : Content)
  | next
  | abandon
  | finishDrain

/-- A call that was made, with what it answered. -/
inductive Deed where
  | pushed (marker : Marker) (producer : Content)
  | returned (p : Pending)
  /-- There was nothing to return. -/
  | dry
  | abandoned (count : Nat)
  | drained

namespace Deed

def returned? : Deed → Option Pending
  | returned p => some p
  | _ => none

def isPush : Deed → Bool
  | pushed _ _ => true
  | _ => false

def isReturn (d : Deed) : Bool := d.returned?.isSome

/-- Whether nothing waits and no drain is under way when the call is over. -/
def clears : Deed → Bool
  | abandoned _ => true
  | drained => true
  | _ => false

end Deed

def act (q : Queue) : Move → Deed × Queue
  | .push marker producer => (.pushed marker producer, q.push marker producer)
  | .next =>
    match q.next? with
    | some (p, q) => (.returned p, q)
    | none => (.dry, q)
  | .abandon =>
    let (count, q) := q.discard
    (.abandoned count, q)
  | .finishDrain => (.drained, q.finishDrain)

/-- Makes the calls of a list, of which the first is the latest, on a new queue. -/
def replay : List Move → List Deed × Queue
  | [] => ([], {})
  | move :: earlier =>
    let (past, q) := replay earlier
    let (deed, q) := q.act move
    (deed :: past, q)

/-- No drain is said to be finished while something waits. -/
def Permitted : List Move → Prop
  | [] => True
  | move :: earlier =>
    (move = .finishDrain → (replay earlier).2.isEmpty = true) ∧ Permitted earlier

section Past

variable (past : List Deed)

/-- All that was ever pushed, in this order. -/
def entries : List Deed → List Pending
  | [] => []
  | .pushed marker producer :: past =>
    entries past ++ [⟨(entries past).length + 1, marker, producer⟩]
  | _ :: past => entries past

/-- How many of the entries have been returned or abandoned. -/
def gone : List Deed → Nat
  | [] => 0
  | .returned _ :: past => gone past + 1
  | .abandoned count :: past => gone past + count
  | _ :: past => gone past

/-- The entries that have been returned, the latest first. -/
def returned : List Pending := past.filterMap Deed.returned?

/-- What happened since a drain was last finished or abandoned. -/
def recent : List Deed := past.takeWhile (!·.clears)

/-- A queue is draining from the first return on, and accumulating from the first push on. -/
def stage : Phase :=
  if (recent past).any Deed.isReturn then .draining
  else if (recent past).any Deed.isPush then .accumulating
  else .empty

end Past

/-- What a queue owes to the calls that were made on it. -/
structure Faithful (past : List Deed) (q : Queue) : Prop where
  /-- What waits is what was pushed and is not gone. -/
  pending : gone past ≤ (entries past).length ∧ q.pending = (entries past).drop (gone past)
  next : q.next?.map Prod.fst = (entries past)[gone past]?
  dry : q.act .next = (.dry, q) ↔ gone past = (entries past).length
  /-- Entries are returned in the order in which they were pushed, and none of them twice. -/
  order : (returned past).Pairwise fun later earlier => earlier.ticket < later.ticket
  pushed : ∀ p ∈ returned past, p ∈ entries past
  /-- Nothing that was pushed before an abandon is returned after it. -/
  abandoned : ∀ later count earlier, past = later ++ .abandoned count :: earlier →
    ∀ p ∈ returned later, p ∉ entries earlier
  discard : q.discard.1 + gone past = (entries past).length ∧ q.discard.2.pending = []
  phase : q.phase = stage past
  empty : q.phase = .empty → q.pending = []
  accumulating : q.phase = .accumulating → q.pending ≠ []

/-- A call and what comes of it. -/
inductive Step (q : Queue) : Deed → Queue → Prop
  | push (marker : Marker) (producer : Content) :
      Step q (.pushed marker producer) (q.push marker producer)
  | take {p : Pending} {rest : List Pending} (h : q.pending = p :: rest) :
      Step q (.returned p) { q with pending := rest, phase := .draining }
  | dry (h : q.pending = []) : Step q .dry q
  | abandon : Step q (.abandoned q.size) q.abandon
  | finish (h : q.pending = []) : Step q .drained q.finishDrain

/-- Calls on a new queue, the latest first, and the queue behind them. -/
inductive Run : List Deed → Queue → Prop
  | new : Run [] {}
  | step {past : List Deed} {q q' : Queue} {deed : Deed} (h : Run past q)
      (hstep : Step q deed q') : Run (deed :: past) q'

variable {q q' : Queue} {deed : Deed} {past : List Deed} {p : Pending}

theorem step_act {move : Move} (h : move = .finishDrain → q.pending = []) :
    Step q (q.act move).1 (q.act move).2 := by
  cases move with
  | push marker producer => exact .push marker producer
  | next =>
    cases hq : q.pending with
    | nil =>
      have hact : q.act .next = (.dry, q) := by simp [act, next?, hq]
      rw [hact]
      exact .dry hq
    | cons p rest =>
      have hact : q.act .next = (.returned p, { q with pending := rest, phase := .draining }) := by
        simp [act, next?, hq]
      rw [hact]
      exact .take hq
  | abandon => exact .abandon
  | finishDrain => exact .finish (h rfl)

theorem replay_cons (move : Move) (earlier : List Move) :
    replay (move :: earlier) =
      (((replay earlier).2.act move).1 :: (replay earlier).1, ((replay earlier).2.act move).2) :=
  rfl

theorem run_replay {moves : List Move} (h : Permitted moves) :
    Run (replay moves).1 (replay moves).2 := by
  induction moves with
  | nil => exact .new
  | cons move earlier ih =>
    rw [replay_cons]
    exact (ih h.2).step (step_act fun hm => List.isEmpty_iff.mp (h.1 hm))

theorem Step.sound (h : Step q deed q') (hs : q.Sound false) : q'.Sound false := by
  cases h with
  | push marker producer => exact sound_push marker producer
  | take hq => exact (Effect.take hq).sound hs
  | dry _ => exact hs
  | abandon => exact Effect.abandon.sound hs
  | finish hq =>
    rw [finishDrain_eq hq]
    exact Effect.abandon.sound hs

theorem Run.sound (h : Run past q) : q.Sound false := by
  induction h with
  | new => exact Clear.sound ⟨rfl, rfl⟩
  | step _ hstep ih => exact hstep.sound ih

theorem stage_pushed (marker : Marker) (producer : Content) (past : List Deed) :
    stage (.pushed marker producer :: past) =
      if stage past = .empty then .accumulating else stage past := by
  have hrecent : recent (.pushed marker producer :: past) =
      .pushed marker producer :: recent past := rfl
  simp only [stage, hrecent, List.any_cons]
  by_cases hr : (recent past).any Deed.isReturn = true
  · simp [hr]
  · by_cases hp : (recent past).any Deed.isPush = true
    · simp [hr, hp, Deed.isReturn, Deed.returned?]
    · simp [hr, hp, Deed.isReturn, Deed.isPush, Deed.returned?]

theorem Step.phase (h : Step q deed q') (hq : q.phase = stage past) :
    q'.phase = stage (deed :: past) := by
  cases h with
  | push marker producer =>
    rw [stage_pushed, ← hq]
    rfl
  | take _ => simp [stage, recent, Deed.clears, Deed.isReturn, Deed.returned?]
  | dry _ => exact hq
  | abandon => rfl
  | finish _ => rfl

theorem Run.phase (h : Run past q) : q.phase = stage past := by
  induction h with
  | new => rfl
  | step _ hstep ih => exact hstep.phase ih

theorem ticket_of_entries {k : Nat} (h : (entries past)[k]? = some p) : p.ticket = k + 1 := by
  induction past with
  | nil => simp [entries] at h
  | cons deed past ih =>
    cases deed with
    | pushed marker producer =>
      rw [entries, List.getElem?_append] at h
      split at h
      next => exact ih h
      next hk =>
        have hlt := (List.getElem?_eq_some_iff.mp h).1
        rw [List.length_singleton] at hlt
        obtain rfl : k = (entries past).length := by omega
        rw [Nat.sub_self] at h
        cases h
        rfl
    | _ => exact ih h

theorem ticket_le_of_mem (h : p ∈ entries past) : p.ticket ≤ (entries past).length := by
  obtain ⟨k, hk⟩ := List.mem_iff_getElem?.mp h
  have hlt := (List.getElem?_eq_some_iff.mp hk).1
  rw [ticket_of_entries hk]
  omega

/-- What waits is what was pushed and is not gone. -/
structure Balance (past : List Deed) (q : Queue) : Prop where
  registered : q.registered = (entries past).length
  gone_le : gone past ≤ (entries past).length
  pending : q.pending = (entries past).drop (gone past)

namespace Balance

theorem size (h : Balance past q) : q.size + gone past = (entries past).length := by
  rw [Queue.size, h.pending, List.length_drop]
  exact Nat.sub_add_cancel h.gone_le

theorem head? (h : Balance past q) : q.pending.head? = (entries past)[gone past]? := by
  rw [h.pending, List.head?_drop]

theorem pending_eq_nil_iff (h : Balance past q) :
    q.pending = [] ↔ gone past = (entries past).length := by
  have hle := h.gone_le
  rw [h.pending, List.drop_eq_nil_iff]
  omega

theorem step (h : Balance past q) (hstep : Step q deed q') : Balance (deed :: past) q' := by
  cases hstep with
  | push marker producer =>
    refine ⟨?_, ?_, ?_⟩
    · simp [push, entries, h.registered]
    · have hle := h.gone_le
      simp only [gone, entries, List.length_append, List.length_singleton]
      omega
    · simp [push, entries, gone, h.pending, h.registered, List.drop_append_of_le_length h.gone_le]
  | take hq =>
    have hnext : q.pending.tail = (entries past).drop (gone past + 1) := by
      rw [h.pending, List.tail_drop]
    have hlt : gone past < (entries past).length := by
      have hsize := h.size
      rw [Queue.size, hq, List.length_cons] at hsize
      omega
    rw [hq] at hnext
    exact ⟨h.registered, hlt, hnext⟩
  | dry _ => exact ⟨h.registered, h.gone_le, h.pending⟩
  | abandon =>
    have hall : gone past + q.size = (entries past).length := by
      have hsize := h.size
      omega
    exact ⟨h.registered, Nat.le_of_eq hall, by simp [abandon, gone, entries, hall]⟩
  | finish hq => exact ⟨h.registered, h.gone_le, h.pending⟩

end Balance

theorem Run.balance (h : Run past q) : Balance past q := by
  induction h with
  | new => exact ⟨rfl, Nat.le_refl _, rfl⟩
  | step _ hstep ih => exact ih.step hstep

/-- An entry that is returned is the first of those that are not gone. -/
theorem Run.entry_of_take {rest : List Pending} (h : Run past q) (hq : q.pending = p :: rest) :
    (entries past)[gone past]? = some p := by
  rw [← h.balance.head?, hq, List.head?_cons]

theorem Step.gone_le (h : Step q deed q') (past : List Deed) :
    gone past ≤ gone (deed :: past) := by
  cases h with
  | take _ => exact Nat.le_succ _
  | abandon => exact Nat.le_add_right _ _
  | _ => exact Nat.le_refl _

theorem Run.ticket_le_gone (h : Run past q) : ∀ p ∈ returned past, p.ticket ≤ gone past := by
  induction h with
  | new => exact fun p hp => absurd hp List.not_mem_nil
  | @step past _ _ _ hrun hstep ih =>
    have hle := hstep.gone_le past
    cases hstep with
    | take hq =>
      intro p hp
      rcases List.mem_cons.mp hp with rfl | hp
      · exact Nat.le_of_eq (ticket_of_entries (hrun.entry_of_take hq))
      · exact Nat.le_trans (ih p hp) hle
    | _ => exact fun p hp => Nat.le_trans (ih p hp) hle

theorem Run.order (h : Run past q) :
    (returned past).Pairwise fun later earlier => earlier.ticket < later.ticket := by
  induction h with
  | new => exact .nil
  | step hrun hstep ih =>
    cases hstep with
    | take hq =>
      refine List.pairwise_cons.mpr ⟨fun earlier hmem => ?_, ih⟩
      have hgone := hrun.ticket_le_gone earlier hmem
      rw [ticket_of_entries (hrun.entry_of_take hq)]
      omega
    | _ => exact ih

theorem Run.returned_subset (h : Run past q) : ∀ p ∈ returned past, p ∈ entries past := by
  induction h with
  | new => exact fun p hp => absurd hp List.not_mem_nil
  | step hrun hstep ih =>
    cases hstep with
    | push marker producer => exact fun p hp => List.mem_append_left _ (ih p hp)
    | take hq =>
      intro p hp
      rcases List.mem_cons.mp hp with rfl | hp
      · exact List.mem_of_getElem? (hrun.entry_of_take hq)
      · exact ih p hp
    | _ => exact ih

/-- What is returned after an abandon was pushed after it. -/
theorem Run.ticket_of_abandoned (h : Run past q) {later earlier : List Deed} {count : Nat}
    (hpast : past = later ++ .abandoned count :: earlier) :
    (entries earlier).length ≤ gone past ∧
      ∀ p ∈ returned later, (entries earlier).length < p.ticket := by
  induction h generalizing later with
  | new => simp at hpast
  | step hrun hstep ih =>
    cases later with
    | nil =>
      -- The abandon is the last call: it makes all that was pushed before it go.
      obtain ⟨rfl, rfl⟩ := List.cons.inj hpast
      cases hstep
      refine ⟨?_, fun p hp => absurd hp List.not_mem_nil⟩
      have hsize := hrun.balance.size
      simp only [gone]
      omega
    | cons deed later =>
      obtain ⟨rfl, hrest⟩ := List.cons.inj hpast
      obtain ⟨hgone, hlater⟩ := ih hrest
      refine ⟨Nat.le_trans hgone (hstep.gone_le _), ?_⟩
      cases hstep with
      | take hq =>
        intro p hp
        rcases List.mem_cons.mp hp with rfl | hp
        · rw [ticket_of_entries (hrun.entry_of_take hq)]
          omega
        · exact hlater p hp
      | _ => exact hlater

theorem Run.faithful (h : Run past q) : Faithful past q where
  pending := ⟨h.balance.gone_le, h.balance.pending⟩
  next := by
    rw [← h.balance.head?, next?]
    cases q.pending with
    | nil => rfl
    | cons p rest => rfl
  dry := by
    rw [← h.balance.pending_eq_nil_iff]
    cases hq : q.pending with
    | nil => simp [act, next?, hq]
    | cons p rest => simp [act, next?, hq]
  order := h.order
  pushed := h.returned_subset
  abandoned := by
    intro later count earlier hpast p hp hmem
    have hlt := (h.ticket_of_abandoned hpast).2 p hp
    have hle := ticket_le_of_mem hmem
    omega
  discard := ⟨h.balance.size, rfl⟩
  phase := h.phase
  empty := h.sound.empty
  accumulating := h.sound.accumulating

/-- A queue hands out what is pushed first in, first out. What it says of itself is what the calls
made on it amount to. -/
theorem replay_faithful {moves : List Move} (h : Permitted moves) :
    Faithful (replay moves).1 (replay moves).2 :=
  (run_replay h).faithful

/-- One producer runs, two that wait behind it are abandoned, and after another one a drain ends
with nothing left. -/
theorem replay_faithful_refilled :
    ∃ moves, moves =
        [Move.push ⟨"e"⟩ default, .finishDrain, .next, .next, .push ⟨"d"⟩ default, .abandon,
          .push ⟨"c"⟩ default, .push ⟨"b"⟩ default, .next, .push ⟨"a"⟩ default] ∧
      Permitted moves ∧
      (returned (replay moves).1).map (fun p => (p.ticket, p.marker.text)) = [(4, "d"), (1, "a")] ∧
      (replay moves).2.pending.map (fun p => (p.ticket, p.marker.text)) = [(5, "e")] ∧
      gone (replay moves).1 = 4 ∧ (replay moves).2.phase = .accumulating ∧
      Faithful (replay moves).1 (replay moves).2 := by
  have permitted : Permitted
      [Move.push ⟨"e"⟩ default, .finishDrain, .next, .next, .push ⟨"d"⟩ default, .abandon,
        .push ⟨"c"⟩ default, .push ⟨"b"⟩ default, .next, .push ⟨"a"⟩ default] :=
    ⟨nofun, fun _ => rfl, nofun, nofun, nofun, nofun, nofun, nofun, nofun, nofun, trivial⟩
  exact ⟨_, rfl, permitted, rfl, rfl, rfl, rfl, replay_faithful permitted⟩

end PageFilters.Queue
