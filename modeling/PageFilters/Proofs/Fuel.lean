import PageFilters.Document

namespace PageFilters

namespace Engine

theorem bind_eq_some_mono {α β : Type} {x x' : Option α} {f f' : α → Option β} {b : β}
    (hx : ∀ a, x = some a → x' = some a) (hf : ∀ a, f a = some b → f' a = some b)
    (h : x.bind f = some b) : x'.bind f' = some b := by
  obtain ⟨a, ha, hb⟩ := Option.bind_eq_some_iff.mp h
  exact Option.bind_eq_some_iff.mpr ⟨a, hx a ha, hf a hb⟩

/-- What the first engine answers the second one answers too. -/
structure Extends (e e' : Engine) : Prop where
  render : ∀ c s out, e.render c s = some out → e'.render c s = some out
  drain : ∀ position buffer s out,
    e.drain position buffer s = some out → e'.drain position buffer s = some out
  settle : ∀ s out, e.settle s = some out → e'.settle s = some out

namespace Extends

variable {e e' : Engine} (extends' : e.Extends e')

include extends'

theorem flushBuffer (s : State) (out : Except RenderError Unit × State)
    (h : e.flushBuffer s = some out) : e'.flushBuffer s = some out :=
  bind_eq_some_mono (extends'.drain _ _ _) (fun _ => id) h

theorem flushDeferred (buffer : String) (s : State) (out : RenderResult × State)
    (h : e.flushDeferred buffer s = some out) : e'.flushDeferred buffer s = some out :=
  bind_eq_some_mono (extends'.drain _ _ _) (fun _ => id) h

theorem finish (s : State) (out : RenderResult × State) (h : e.finish s = some out) :
    e'.finish s = some out := by
  unfold Engine.finish at h ⊢
  split at h
  next hf =>
    rw [if_pos hf]
    exact h
  next hf =>
    rw [if_neg hf]
    exact bind_eq_some_mono (extends'.settle _) (fun _ => id) h

theorem perform (op : Op) (s : State) (out : op.Answer × State) (h : e.perform op s = some out) :
    e'.perform op s = some out := by
  cases op with
  | flushBuffer => exact extends'.flushBuffer s out h
  | flushDeferred buffer => exact extends'.flushDeferred buffer s out h
  | finish => exact extends'.finish s out h
  | _ => exact h

theorem invoke (call : Call) (inner : Content) (s : State) (out : RenderResult × State)
    (h : e.invoke call inner s = some out) : e'.invoke call inner s = some out := by
  unfold Engine.invoke at h ⊢
  split at h
  next filters s₁ _ => exact extends'.render _ _ _ h
  next error s₁ _ => exact h

theorem runContent (c : Content) (s : State) (out : RenderResult × State)
    (h : e.runContent c s = some out) : e'.runContent c s = some out := by
  induction c generalizing s with
  | done result => exact h
  | perform op next ih =>
    exact bind_eq_some_mono (extends'.perform op s) (fun a => ih a.1 a.2) h
  | defer producer next _ ih => exact ih _ _ h
  | yield next ih => exact ih _ s h
  | invoke call inner next _ ih =>
    exact bind_eq_some_mono (extends'.invoke call inner s) (fun a => ih a.1 a.2) h

theorem runDrain (position : Nat) (buffer : String) (s : State)
    (out : Except RenderError Unit × String × State)
    (h : e.runDrain position buffer s = some out) : e'.runDrain position buffer s = some out := by
  unfold Engine.runDrain at h ⊢
  split at h
  next => exact h
  next p s₁ _ =>
    refine bind_eq_some_mono (extends'.runContent p.producer s₁) (fun a ha => ?_) h
    obtain ⟨result, s₂⟩ := a
    cases result with
    | ok text => exact extends'.drain _ _ _ _ ha
    | error error => exact ha

theorem runSettle (s : State) (out : Except RenderError Unit × State)
    (h : e.runSettle s = some out) : e'.runSettle s = some out := by
  refine bind_eq_some_mono (extends'.flushBuffer s) (fun a ha => ?_) h
  obtain ⟨result, s₁⟩ := a
  cases result with
  | error error => exact ha
  | ok _ =>
    dsimp only at ha ⊢
    split at ha
    next hempty =>
      rw [if_pos hempty]
      exact ha
    next hempty =>
      rw [if_neg hempty]
      exact extends'.settle _ _ ha

end Extends

theorem extends_succ (fuel : Nat) : (ofFuel fuel).Extends (ofFuel (fuel + 1)) := by
  induction fuel with
  | zero =>
    refine ⟨fun c s out h => ?_, fun position buffer s out h => ?_, fun s out h => ?_⟩
    all_goals cases h
  | succ fuel ih =>
    refine ⟨fun c s out h => ?_, fun position buffer s out h => ?_, fun s out h => ?_⟩
    · change (ofFuel (fuel + 1)).runContent c s = some out
      exact ih.runContent c s out h
    · change (ofFuel (fuel + 1)).runDrain position buffer s = some out
      exact ih.runDrain position buffer s out h
    · change (ofFuel (fuel + 1)).runSettle s = some out
      exact ih.runSettle s out h

/-- A run that ends with some fuel ends in the same way with more of it. -/
theorem extends_of_le {fuel fuel' : Nat} (h : fuel ≤ fuel') :
    (ofFuel fuel).Extends (ofFuel fuel') := by
  induction h with
  | refl => exact ⟨fun _ _ _ => id, fun _ _ _ _ => id, fun _ _ => id⟩
  | @step fuel' _ ih =>
    have hsucc := extends_succ fuel'
    exact ⟨fun c s out h => hsucc.render c s out (ih.render c s out h),
      fun position buffer s out h =>
        hsucc.drain position buffer s out (ih.drain position buffer s out h),
      fun s out h => hsucc.settle s out (ih.settle s out h)⟩

/-- What a part of a run answers does not depend on the fuel. -/
theorem unique {α : Type} {run : Engine → Option α}
    (hrun : ∀ e e' : Engine, e.Extends e' → ∀ out, run e = some out → run e' = some out)
    {fuel fuel' : Nat} {out out' : α} (h : run (ofFuel fuel) = some out)
    (h' : run (ofFuel fuel') = some out') : out = out' := by
  have hleft := hrun _ _ (extends_of_le (Nat.le_max_left fuel fuel')) out h
  have hright := hrun _ _ (extends_of_le (Nat.le_max_right fuel fuel')) out' h'
  exact Option.some.inj (hleft.symm.trans hright)

theorem flushBuffer_unique {fuel fuel' : Nat} {s : State}
    {out out' : Except RenderError Unit × State}
    (h : (ofFuel fuel).flushBuffer s = some out) (h' : (ofFuel fuel').flushBuffer s = some out') :
    out = out' :=
  unique (fun _ _ extends' => extends'.flushBuffer s) h h'

theorem finish_unique {fuel fuel' : Nat} {s : State} {out out' : RenderResult × State}
    (h : (ofFuel fuel).finish s = some out) (h' : (ofFuel fuel').finish s = some out') :
    out = out' :=
  unique (fun _ _ extends' => extends'.finish s) h h'

end Engine

namespace Block

variable {e e' : Engine} (extends' : e.Extends e')

include extends'

theorem render_extends {index : Nat} {b : Block} {s : State}
    {out : Except DocumentError Unit × State} (h : b.render e index s = some out) :
    b.render e' index s = some out := by
  unfold render at h ⊢
  split at h
  next error _ => exact h
  next filters _ =>
    refine Engine.bind_eq_some_mono (extends'.runContent _ s) (fun a ha => ?_) h
    obtain ⟨result, s₁⟩ := a
    cases result with
    | error error => exact ha
    | ok text =>
      dsimp only at ha ⊢
      split at ha
      next hflush =>
        rw [if_pos hflush]
        exact Engine.bind_eq_some_mono (extends'.flushBuffer _) (fun _ => id) ha
      next hflush =>
        rw [if_neg hflush]
        exact ha

theorem renderAll_extends {index : Nat} {bs : List Block} {s : State}
    {out : Except DocumentError Unit × State} (h : renderAll e index bs s = some out) :
    renderAll e' index bs s = some out := by
  induction bs generalizing index s with
  | nil => exact h
  | cons b bs ih =>
    refine Engine.bind_eq_some_mono (fun a => b.render_extends extends') (fun a ha => ?_) h
    obtain ⟨result, s₁⟩ := a
    cases result with
    | error error => exact ha
    | ok _ => exact ih ha

end Block

theorem Document.render_mono {d : Document} {fuel fuel' : Nat} (hf : fuel ≤ fuel') {s : State}
    {out : Except DocumentError String × State} (h : d.render fuel s = some out) :
    d.render fuel' s = some out := by
  have hextends := Engine.extends_of_le hf
  refine Engine.bind_eq_some_mono (fun a => Block.renderAll_extends hextends) (fun a ha => ?_) h
  obtain ⟨result, s₁⟩ := a
  cases result with
  | error error => exact ha
  | ok _ => exact Engine.bind_eq_some_mono (hextends.finish s₁) (fun _ => id) ha

end PageFilters
