import PageFilters.Document
import PageFilters.Registry.Standard

namespace PageFilters

/-- What the simple filters of the standard registry do to a text. -/
inductive Rewrite where
  | trim
  | noBlankLines
  | htmlEscape
  | uriEscape
  | htmlPara
deriving DecidableEq, Repr

def Rewrite.apply : Rewrite → String → String
  | trim => Text.trim
  | noBlankLines => Text.noBlankLines
  | htmlEscape => Text.htmlEscape
  | uriEscape => Text.uriEscape
  | htmlPara => Text.htmlPara

/-- A filter of the standard registry with its arguments. -/
inductive Item where
  | rewrite (r : Rewrite)
  | repeated (n : Nat)
  | cached (key : String) (ttl : Option Nat)
  | deferred
deriving DecidableEq, Repr

namespace Item

def filter : Item → Filter
  | rewrite r => .ofText r.apply
  | repeated n => .repeated n
  | cached key ttl => .cached key ttl
  | deferred => .deferred

@[simp] theorem filter_rewrite (r : Rewrite) : (rewrite r).filter = .ofText r.apply := rfl

@[simp] theorem filter_repeated (n : Nat) : (repeated n).filter = .repeated n := rfl

@[simp] theorem filter_cached (key : String) (ttl : Option Nat) :
    (cached key ttl).filter = .cached key ttl := rfl

@[simp] theorem filter_deferred : deferred.filter = .deferred := rfl

/-- How many producers content in these filters registers, drains included, as long as no cache
answers. -/
def defers : List Item → Nat
  | [] => 0
  | rewrite _ :: is => defers is
  | repeated n :: is => n * defers is
  | cached _ _ :: is => defers is
  | deferred :: is => 1 + defers is

end Item

namespace Standard

def rewrite? (name : String) : Option Rewrite :=
  if name = "Trim" then some .trim
  else if name = "NoBlankLines" then some .noBlankLines
  else if name = "HtmlEscape" ∨ name = "H" ∨ name = "HTML" then some .htmlEscape
  else if name = "UriEscape" ∨ name = "U" ∨ name = "URI" then some .uriEscape
  else if name = "HtmlPara" then some .htmlPara
  else none

def repeated? : List Argument → Option Item
  | [.integer n] => if n < 0 then none else some (.repeated n.toNat)
  | _ => none

def cached? : List Argument → Option Item
  | [key] => (cacheKey key).toOption.map (.cached · none)
  | [key, ttl] =>
    (cacheKey key).toOption.bind fun key => (cacheTtl ttl).toOption.map fun ttl =>
      .cached key (some ttl)
  | _ => none

/-- The filter that a call of a standard name resolves to, if it does. -/
def item? (name : String) (args : List Argument) : Option Item :=
  if name = "Repeat" then repeated? args
  else if name = "Cache" then cached? args
  else if args.isEmpty then
    if name = "Defer" then some .deferred else (rewrite? name).map .rewrite
  else none

end Standard

def Call.items? : Call → Option (List Item)
  | named name args => (Standard.item? name args).map fun i => [i]
  | piped list =>
    match PipeList.parse list with
    | .ok names => names.mapM fun name => Standard.item? name []
    | .error _ => none

/-- The filters of a block, outermost first, if all resolve in the standard registry. -/
def Block.items? (b : Block) : Option (List Item) :=
  (b.calls.mapM Call.items?).map List.flatten

def Block.items (b : Block) : List Item := b.items?.getD []

namespace Standard

theorem repeatFactory_toOption (args : List Argument) :
    (repeatFactory args).toOption = (repeated? args).map fun i => [i.filter] := by
  match args with
  | [.integer n] =>
    simp only [repeatFactory, repeated?]
    split
    next => rfl
    next => rfl
  | [] => rfl
  | [.text t] => rfl
  | _ :: _ :: _ => simp [repeatFactory, repeated?, Except.toOption]

theorem cacheFactory_toOption (args : List Argument) :
    (cacheFactory args).toOption = (cached? args).map fun i => [i.filter] := by
  match args with
  | [key] =>
    simp only [cacheFactory, cached?]
    cases cacheKey key with
    | error e => rfl
    | ok k => rfl
  | [key, ttl] =>
    simp only [cacheFactory, cached?]
    cases cacheKey key with
    | error e => rfl
    | ok k =>
      cases cacheTtl ttl with
      | error e => rfl
      | ok t => rfl
  | [] => rfl
  | _ :: _ :: _ :: _ => rfl

theorem withoutArguments_toOption (name : String) (i : Item) (args : List Argument) :
    (Factory.withoutArguments name [i.filter] args).toOption =
      (if args.isEmpty then some i else none).map fun i => [i.filter] := by
  unfold Factory.withoutArguments
  split
  next => rfl
  next => rfl

end Standard

theorem Registry.get?_insert (r : Registry) (name other : String) (g : Registration) :
    (r.insert name g).get? other = if name = other then some g else r.get? other := by
  simp only [get?, insert, Std.TreeMap.getElem?_insert, Std.LawfulEqOrd.compare_eq_iff_eq]

theorem Registry.standard_rewrite {name : String} {r : Rewrite}
    (h : Standard.rewrite? name = some r) :
    ∃ summary, standard.get? name =
      some { summary, factory := Factory.withoutArguments name [.ofText r.apply] } := by
  unfold Standard.rewrite? at h
  split at h
  next hname =>
    subst hname
    cases h
    simp [standard, registerSimple, register, get?_insert, Rewrite.apply]
  split at h
  next hname =>
    subst hname
    cases h
    simp [standard, registerSimple, register, get?_insert, Rewrite.apply]
  split at h
  next hname =>
    cases h
    rcases hname with rfl | rfl | rfl <;>
      simp [standard, registerSimple, register, get?_insert, Rewrite.apply]
  split at h
  next hname =>
    cases h
    rcases hname with rfl | rfl | rfl <;>
      simp [standard, registerSimple, register, get?_insert, Rewrite.apply]
  split at h
  next hname =>
    subst hname
    cases h
    simp [standard, registerSimple, register, get?_insert, Rewrite.apply]
  next => simp at h

theorem Registry.standard_unknown {name : String} (h : Standard.rewrite? name = none)
    (hr : name ≠ "Repeat") (hc : name ≠ "Cache") (hd : name ≠ "Defer") :
    standard.get? name = none := by
  have hn : ∀ other, Standard.rewrite? other ≠ none → other ≠ name := by
    rintro other ho rfl
    exact ho h
  simp [standard, registerSimple, register, get?_insert, hr.symm, hc.symm, hd.symm,
    hn _ (by decide : Standard.rewrite? "Trim" ≠ none),
    hn _ (by decide : Standard.rewrite? "NoBlankLines" ≠ none),
    hn _ (by decide : Standard.rewrite? "HtmlEscape" ≠ none),
    hn _ (by decide : Standard.rewrite? "H" ≠ none),
    hn _ (by decide : Standard.rewrite? "HTML" ≠ none),
    hn _ (by decide : Standard.rewrite? "UriEscape" ≠ none),
    hn _ (by decide : Standard.rewrite? "U" ≠ none),
    hn _ (by decide : Standard.rewrite? "URI" ≠ none),
    hn _ (by decide : Standard.rewrite? "HtmlPara" ≠ none)]
  rfl

theorem Registry.standard_resolveIn (list name : String) (args : List Argument) :
    (standard.resolveIn list name args).toOption =
      (Standard.item? name args).map fun i => [i.filter] := by
  by_cases hr : name = "Repeat"
  · subst hr
    simp [resolveIn, standard, registerSimple, register, get?_insert, Standard.item?,
      Standard.repeatFactory_toOption]
  by_cases hc : name = "Cache"
  · subst hc
    simp [resolveIn, standard, registerSimple, register, get?_insert, Standard.item?,
      Standard.cacheFactory_toOption]
  by_cases hd : name = "Defer"
  · subst hd
    have hf := Standard.withoutArguments_toOption "Defer" .deferred args
    simpa [resolveIn, standard, registerSimple, register, get?_insert, Standard.item?] using hf
  simp only [resolveIn, Standard.item?, hr, hc, hd, if_false]
  cases h : Standard.rewrite? name with
  | none =>
    rw [standard_unknown h hr hc hd]
    simp [Except.toOption]
  | some r =>
    obtain ⟨summary, hget⟩ := standard_rewrite h
    rw [hget]
    exact Standard.withoutArguments_toOption name (.rewrite r) args

section Lists

variable {α β γ ε : Type} {f : α → Except ε β} {g : α → Option γ} {k : γ → β}

theorem mapM_toOption (h : ∀ a, (f a).toOption = (g a).map k) (as : List α) :
    (as.mapM f).toOption = (as.mapM g).map (List.map k) := by
  induction as with
  | nil => rfl
  | cons a as ih =>
    have ha := h a
    rw [List.mapM_cons, List.mapM_cons]
    cases hf : f a with
    | error e =>
      rw [hf] at ha
      have hg : g a = none := Option.map_eq_none_iff.mp ha.symm
      rw [hg]
      rfl
    | ok b =>
      rw [hf] at ha
      obtain ⟨c, hg, rfl⟩ := Option.map_eq_some_iff.mp ha.symm
      rw [hg]
      cases hm : as.mapM f with
      | error e =>
        rw [hm] at ih
        have hn : as.mapM g = none := Option.map_eq_none_iff.mp ih.symm
        rw [hn]
        rfl
      | ok bs =>
        rw [hm] at ih
        obtain ⟨cs, hcs, rfl⟩ := Option.map_eq_some_iff.mp ih.symm
        rw [hcs]
        rfl

theorem flatten_toOption (x : Except ε (List (List β))) :
    Except.toOption (do let bss ← x; return bss.flatten) = x.toOption.map List.flatten := by
  cases x <;> rfl

end Lists

theorem Registry.standard_resolve (call : Call) :
    (standard.resolve call).toOption = call.items?.map (List.map Item.filter) := by
  cases call with
  | named name args =>
    simp only [resolve, resolveNamed, standard_resolveIn, Call.items?, Option.map_map]
    rfl
  | piped list =>
    simp only [resolve, resolvePipe, Call.items?]
    cases PipeList.parse list with
    | error e => rfl
    | ok names =>
      have h := mapM_toOption (fun name => standard_resolveIn (Text.trim list) name []) names
      refine (flatten_toOption _).trans ?_
      rw [h, Option.map_map]
      congr 1
      funext items
      exact List.map_eq_flatMap.symm

/-- The filters that a block resolves to in the standard registry are those of its items. -/
theorem Block.resolve_standard (b : Block) :
    (b.resolve .standard).toOption = b.items?.map (List.map Item.filter) := by
  refine (flatten_toOption _).trans ?_
  rw [mapM_toOption Registry.standard_resolve, items?, Option.map_map, Option.map_map]
  congr 1
  funext items
  simp [List.map_flatten]

theorem Block.resolve_of_items {b : Block} {items : List Item} (h : b.items? = some items) :
    b.resolve .standard = .ok (items.map Item.filter) := by
  have hr := b.resolve_standard
  rw [h] at hr
  cases hb : b.resolve .standard with
  | error e => simp [hb, Except.toOption] at hr
  | ok fs => simpa [hb, Except.toOption] using hr

theorem Item.defers_append (is js : List Item) (h : ∀ n, .repeated n ∉ is) :
    defers (is ++ js) = defers is + defers js := by
  induction is with
  | nil => simp [defers]
  | cons i is ih =>
    have ih := ih fun n hn => h n (List.mem_cons_of_mem _ hn)
    cases i with
    | rewrite r => simpa [defers] using ih
    | repeated n => exact absurd List.mem_cons_self (h n)
    | cached key ttl => simpa [defers] using ih
    | deferred =>
      simp only [List.cons_append, defers, ih]
      omega

theorem Standard.item?_cases {name : String} {args : List Argument} {i : Item}
    (h : item? name args = some i) :
    (name = "Repeat" ∧ ∃ n : Int, args = [.integer n] ∧ i = .repeated n.toNat) ∨
      (name = "Defer" ∧ i = .deferred) ∨
      (name ≠ "Repeat" ∧ name ≠ "Defer" ∧
        ((∃ key ttl, i = .cached key ttl) ∨ ∃ r, i = .rewrite r)) := by
  unfold item? at h
  split at h
  next hname =>
    left
    unfold repeated? at h
    split at h
    next n =>
      split at h
      next => simp at h
      next => exact ⟨hname, n, rfl, (Option.some.inj h).symm⟩
    next => simp at h
  next hr =>
    right
    split at h
    next hname =>
      right
      refine ⟨hr, by simp [hname], Or.inl ?_⟩
      unfold cached? at h
      split at h
      next =>
        obtain ⟨k, _, rfl⟩ := Option.map_eq_some_iff.mp h
        exact ⟨k, none, rfl⟩
      next =>
        obtain ⟨k, _, h⟩ := Option.bind_eq_some_iff.mp h
        obtain ⟨t, _, rfl⟩ := Option.map_eq_some_iff.mp h
        exact ⟨k, some t, rfl⟩
      next => simp at h
    next =>
      split at h
      next =>
        split at h
        next hname => exact Or.inl ⟨hname, (Option.some.inj h).symm⟩
        next hd =>
          obtain ⟨r, _, rfl⟩ := Option.map_eq_some_iff.mp h
          exact Or.inr ⟨hr, hd, Or.inr ⟨r, rfl⟩⟩
      next => simp at h

theorem Standard.items?_names {names : List String} {items : List Item}
    (h : (names.mapM fun name => item? name []) = some items) :
    (∀ n, .repeated n ∉ items) ∧ Item.defers items = names.count "Defer" := by
  induction names generalizing items with
  | nil =>
    cases Option.some.inj h
    simp [Item.defers]
  | cons name names ih =>
    rw [List.mapM_cons] at h
    obtain ⟨i, hi, h⟩ := Option.bind_eq_some_iff.mp h
    obtain ⟨rest, hrest, h⟩ := Option.bind_eq_some_iff.mp h
    cases Option.some.inj h
    obtain ⟨hrep, hcount⟩ := ih hrest
    obtain ⟨_, _, hargs, _⟩ | ⟨rfl, rfl⟩ | ⟨_, hd, ⟨key, ttl, rfl⟩ | ⟨r, rfl⟩⟩ := item?_cases hi
    · simp at hargs
    · simp [hrep, Item.defers, hcount, Nat.add_comm]
    · simp [hrep, Item.defers, hcount, hd]
    · simp [hrep, Item.defers, hcount, hd]

/-- Fuel for the drains is reckoned from the producers that the items register. -/
theorem Call.countDefers_eq {calls : List Call} {lists : List (List Item)} (times : Nat)
    (h : calls.mapM items? = some lists) :
    countDefers times calls = times * Item.defers lists.flatten := by
  induction calls generalizing times lists with
  | nil =>
    cases Option.some.inj h
    simp [countDefers, Item.defers]
  | cons call calls ih =>
    rw [List.mapM_cons] at h
    obtain ⟨items, hitems, h⟩ := Option.bind_eq_some_iff.mp h
    obtain ⟨rest, hrest, h⟩ := Option.bind_eq_some_iff.mp h
    cases Option.some.inj h
    rw [List.flatten_cons]
    cases call with
    | named name args =>
      obtain ⟨i, hi, rfl⟩ := Option.map_eq_some_iff.mp hitems
      obtain ⟨rfl, n, rfl, rfl⟩ | ⟨rfl, rfl⟩ | ⟨hr, _, ⟨key, ttl, rfl⟩ | ⟨r, rfl⟩⟩ :=
        Standard.item?_cases hi
      · simp [countDefers, Item.defers, ih _ hrest, Nat.mul_assoc]
      · simp [countDefers, Item.defers, ih _ hrest, Nat.mul_add]
      · simp [countDefers, Item.defers, ih _ hrest, hr]
      · simp [countDefers, Item.defers, ih _ hrest, hr]
    | piped list =>
      simp only [items?] at hitems
      cases hp : PipeList.parse list with
      | error e => simp [hp] at hitems
      | ok names =>
        rw [hp] at hitems
        obtain ⟨hrep, hcount⟩ := Standard.items?_names hitems
        rw [Item.defers_append _ _ hrep, hcount]
        simp only [countDefers, hp, ih times hrest, Nat.mul_add]

theorem Block.countDefers_eq {b : Block} (h : b.items? = some b.items) :
    Call.countDefers 1 b.calls = Item.defers b.items := by
  obtain ⟨lists, hlists, hitems⟩ := Option.map_eq_some_iff.mp h
  rw [← hitems, Call.countDefers_eq 1 hlists, Nat.one_mul]

theorem Block.items?_of_resolve {b : Block} {fs : List Filter} (h : b.resolve .standard = .ok fs) :
    b.items? = some b.items := by
  have hr := b.resolve_standard
  rw [h] at hr
  obtain ⟨is, his, _⟩ := Option.map_eq_some_iff.mp hr.symm
  rw [items, his, Option.getD_some]

end PageFilters
