import Mathlib.Data.List.Forall2

namespace PageFilters

variable {α β ε : Type}

theorem mapM_isSome_iff {g : α → Option β} {as : List α} :
    (as.mapM g).isSome = true ↔ ∀ a ∈ as, (g a).isSome = true := by
  induction as with
  | nil => exact ⟨fun _ => nofun, fun _ => rfl⟩
  | cons a as ih =>
    rw [List.forall_mem_cons, ← ih, List.mapM_cons]
    cases g a with
    | none => exact ⟨nofun, fun h => h.1⟩
    | some b =>
      cases as.mapM g with
      | none => exact ⟨nofun, fun h => h.2⟩
      | some bs => exact ⟨fun _ => ⟨rfl, rfl⟩, fun _ => rfl⟩

section Except

variable {f : α → Except ε β}

/-- A list is accepted if all of its elements are. -/
theorem mapM_eq_ok_iff {as : List α} {bs : List β} :
    as.mapM f = .ok bs ↔ List.Forall₂ (fun a b => f a = .ok b) as bs := by
  induction as generalizing bs with
  | nil =>
    rw [List.forall₂_nil_left_iff]
    exact ⟨fun h => (Except.ok.inj h).symm, fun h => congrArg Except.ok h.symm⟩
  | cons a as ih =>
    rw [List.mapM_cons, List.forall₂_cons_left_iff]
    cases ha : f a with
    | error e =>
      refine ⟨nofun, fun ⟨b, _, hb, _⟩ => ?_⟩
      cases hb
    | ok b =>
      cases has : as.mapM f with
      | error e =>
        refine ⟨nofun, fun ⟨_, rest, _, hrest, _⟩ => ?_⟩
        have hok := ih.mpr hrest
        rw [has] at hok
        cases hok
      | ok rest =>
        constructor
        · intro h
          exact ⟨b, rest, rfl, ih.mp has, (Except.ok.inj h).symm⟩
        · rintro ⟨b', rest', hb, hrest, rfl⟩
          cases hb
          have hok := ih.mpr hrest
          rw [has] at hok
          cases hok
          rfl

/-- A list is refused for the first of its elements that is. -/
theorem mapM_eq_error_iff {as : List α} {e : ε} :
    as.mapM f = .error e ↔ ∃ before a after, as = before ++ a :: after ∧
      (∀ x ∈ before, ∃ b, f x = .ok b) ∧ f a = .error e := by
  constructor
  · intro h
    induction as with
    | nil => cases h
    | cons a as ih =>
      rw [List.mapM_cons] at h
      cases ha : f a with
      | error e' =>
        rw [ha] at h
        cases h
        exact ⟨[], a, as, rfl, nofun, ha⟩
      | ok b =>
        rw [ha] at h
        have hrest : as.mapM f = .error e := by
          cases hm : as.mapM f with
          | error e' =>
            rw [hm] at h
            cases h
            rfl
          | ok bs =>
            rw [hm] at h
            cases h
        obtain ⟨before, a', after, rfl, hbefore, hfails⟩ := ih hrest
        exact ⟨a :: before, a', after, rfl, List.forall_mem_cons.mpr ⟨⟨b, ha⟩, hbefore⟩, hfails⟩
  · rintro ⟨before, a, after, rfl, hbefore, hfails⟩
    induction before with
    | nil =>
      rw [List.nil_append, List.mapM_cons, hfails]
      rfl
    | cons x before ih =>
      obtain ⟨⟨b, hx⟩, hbefore⟩ := List.forall_mem_cons.mp hbefore
      rw [List.cons_append, List.mapM_cons, hx, ih hbefore]
      rfl

theorem mapM_append_ok_iff {as as' : List α} {bs : List β} :
    (as ++ as').mapM f = .ok bs ↔
      ∃ x y, as.mapM f = .ok x ∧ as'.mapM f = .ok y ∧ bs = x ++ y := by
  rw [List.mapM_append]
  cases as.mapM f with
  | error e => exact ⟨nofun, fun ⟨x, y, hx, _⟩ => nomatch hx⟩
  | ok x =>
    cases as'.mapM f with
    | error e => exact ⟨nofun, fun ⟨_, y, _, hy, _⟩ => nomatch hy⟩
    | ok y =>
      constructor
      · intro h
        exact ⟨x, y, rfl, rfl, (Except.ok.inj h).symm⟩
      · rintro ⟨x', y', hx, hy, rfl⟩
        cases hx
        cases hy
        rfl

theorem map_eq_ok_iff {x : Except ε α} {g : α → β} {b : β} :
    x.map g = .ok b ↔ ∃ a, x = .ok a ∧ b = g a := by
  cases x with
  | error e => exact ⟨nofun, fun ⟨_, h, _⟩ => nomatch h⟩
  | ok a => simp [Except.map, eq_comm]

theorem map_eq_error_iff {x : Except ε α} {g : α → β} {e : ε} :
    x.map g = .error e ↔ x = .error e := by
  cases x with
  | error e' => simp [Except.map]
  | ok a => exact ⟨nofun, nofun⟩

end Except

theorem forall_or_exists_first (P : α → Prop) (as : List α) :
    (∀ a ∈ as, P a) ∨
      ∃ before a after, as = before ++ a :: after ∧ (∀ x ∈ before, P x) ∧ ¬ P a := by
  induction as with
  | nil => exact .inl nofun
  | cons a as ih =>
    by_cases ha : P a
    · obtain hall | ⟨before, b, after, rfl, hbefore, hb⟩ := ih
      · exact .inl (List.forall_mem_cons.mpr ⟨ha, hall⟩)
      · exact .inr ⟨a :: before, b, after, rfl, List.forall_mem_cons.mpr ⟨ha, hbefore⟩, hb⟩
    · exact .inr ⟨[], a, as, rfl, nofun, ha⟩

end PageFilters
