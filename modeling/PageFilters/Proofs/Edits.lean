import PageFilters.Proofs.Item

namespace PageFilters

/-- A change of what names stand for in a registry. -/
inductive Edit where
  | register (name summary : String) (factory : Factory)
  | registerSimple (name summary : String) (f : String → String)
  | defineBlock (name summary : String) (body : List Argument → Content)
  | addAlias (name target : String)

namespace Edit

/-- The name that the edit writes if it succeeds. -/
def name : Edit → String
  | register name _ _ => name
  | registerSimple name _ _ => name
  | defineBlock name _ _ => name
  | addAlias name _ => name

/-- What the edit registers if it is no alias. -/
def definition? : Edit → Option Registration
  | register _ summary factory => some { summary, factory }
  | registerSimple name summary f =>
    some { summary, factory := .withoutArguments name [.ofText f] }
  | defineBlock _ summary body =>
    some { summary, factory := fun args => .ok [.dynamic (body args)] }
  | addAlias _ _ => none

end Edit

namespace Registry

/-- Makes an edit. One that fails leaves the registry as it is. -/
def edit (r : Registry) : Edit → Except FilterError Unit × Registry
  | .register name summary factory => (.ok (), r.register name summary factory)
  | .registerSimple name summary f => (.ok (), r.registerSimple name summary f)
  | .defineBlock name summary body => (.ok (), r.defineBlock name summary body)
  | .addAlias name target =>
    match r.addAlias name target with
    | .ok r => (.ok (), r)
    | .error error => (.error error, r)

/-- The registry after the edits of a list, of which the first is the latest. -/
def edited (r : Registry) : List Edit → Registry
  | [] => r
  | e :: earlier => ((r.edited earlier).edit e).2

/-- No edit among the later ones has written the name. -/
def Spared (base : Registry) (name : String) (later earlier : List Edit) : Prop :=
  ∀ after e before, later = after ++ e :: before →
    ((base.edited (before ++ earlier)).edit e).1 = .ok () → e.name ≠ name

/-- What a name stands for by the edits: what the last one that succeeded in writing it gave it. An
alias gives it what the target stood for by the edits before. -/
inductive Stands (base : Registry) : List Edit → String → Registration → Prop
  | given {edits : List Edit} {name : String} {g : Registration} (h : base.get? name = some g)
      (spared : base.Spared name edits []) : Stands base edits name g
  | defined {later earlier : List Edit} {e : Edit} {g : Registration} (h : e.definition? = some g)
      (spared : base.Spared e.name later (e :: earlier)) :
      Stands base (later ++ e :: earlier) e.name g
  | aliased {later earlier : List Edit} {name target : String} {g : Registration}
      (h : Stands base earlier target g)
      (spared : base.Spared name later (.addAlias name target :: earlier)) :
      Stands base (later ++ .addAlias name target :: earlier) name g

theorem edit_definition {r : Registry} {e : Edit} {g : Registration} (h : e.definition? = some g) :
    r.edit e = (.ok (), r.insert e.name g) := by
  cases e with
  | addAlias name target => cases h
  | _ =>
    cases h
    rfl

theorem edit_alias {r : Registry} {target : String} {g : Registration} (name : String)
    (h : r.get? target = some g) : r.edit (.addAlias name target) = (.ok (), r.insert name g) := by
  simp [edit, addAlias, h]

theorem edit_alias_unknown {r : Registry} {target : String} (name : String)
    (h : r.get? target = none) :
    r.edit (.addAlias name target) = (.error (.unknown target name), r) := by
  simp [edit, addAlias, h]

/-- An edit registers a definition of its own or that of its target, or it has no target. -/
theorem edit_cases (r : Registry) (e : Edit) :
    (∃ g, e.definition? = some g ∧ r.edit e = (.ok (), r.insert e.name g)) ∨
    (∃ name target g, e = .addAlias name target ∧ r.get? target = some g ∧
      r.edit e = (.ok (), r.insert name g)) ∨
    (∃ name target, e = .addAlias name target ∧ r.get? target = none ∧
      r.edit e = (.error (.unknown target name), r)) := by
  cases e with
  | addAlias name target =>
    cases htarget : r.get? target with
    | some g => exact .inr (.inl ⟨name, target, g, rfl, htarget, edit_alias name htarget⟩)
    | none => exact .inr (.inr ⟨name, target, rfl, htarget, edit_alias_unknown name htarget⟩)
  | _ => exact .inl ⟨_, rfl, edit_definition rfl⟩

/-- A name that an edit does not write stands for what it did. -/
theorem get?_edit_other {r : Registry} {e : Edit} {name : String}
    (h : (r.edit e).1 = .ok () → e.name ≠ name) : (r.edit e).2.get? name = r.get? name := by
  obtain ⟨g, _, hedit⟩ | ⟨other, _, g, rfl, _, hedit⟩ | ⟨_, _, rfl, _, hedit⟩ := r.edit_cases e
  · rw [hedit] at h ⊢
    rw [get?_insert, if_neg (h rfl)]
  · rw [hedit] at h ⊢
    have hne : other ≠ name := h rfl
    rw [get?_insert, if_neg hne]
  · rw [hedit]

variable {base : Registry} {name : String} {e : Edit} {edits later earlier : List Edit}
  {g : Registration}

theorem spared_nil : base.Spared name [] earlier := by
  intro after e before h
  simp at h

theorem Spared.cons (h : base.Spared name later earlier)
    (he : ((base.edited (later ++ earlier)).edit e).1 = .ok () → e.name ≠ name) :
    base.Spared name (e :: later) earlier := by
  intro after e' before hsplit
  rcases List.cons_eq_append_iff.mp hsplit with ⟨_, heq⟩ | ⟨after', _, hrest⟩
  · cases heq
    exact he
  · exact h after' e' before hrest

theorem Spared.head (h : base.Spared name (e :: later) earlier) :
    ((base.edited (later ++ earlier)).edit e).1 = .ok () → e.name ≠ name :=
  h [] e later rfl

theorem Spared.tail (h : base.Spared name (e :: later) earlier) :
    base.Spared name later earlier := fun after e' before hsplit =>
  h (e :: after) e' before (congrArg (e :: ·) hsplit)

theorem Spared.get?_eq (h : base.Spared name later earlier) :
    (base.edited (later ++ earlier)).get? name = (base.edited earlier).get? name := by
  induction later with
  | nil => rfl
  | cons e later ih => exact (get?_edit_other h.head).trans (ih h.tail)

/-- An edit that does not write the name changes nothing of what it stands for. -/
theorem Stands.cons (h : base.Stands edits name g)
    (he : ((base.edited edits).edit e).1 = .ok () → e.name ≠ name) :
    base.Stands (e :: edits) name g := by
  cases h with
  | given h spared => exact .given h (spared.cons (by simpa using he))
  | defined h spared => exact @defined base (e :: _) _ _ g h (spared.cons he)
  | aliased h spared => exact @aliased base (e :: _) _ name _ g h (spared.cons he)

theorem Stands.of_definition (h : e.definition? = some g) : base.Stands (e :: earlier) e.name g :=
  @defined base [] earlier e g h spared_nil

theorem Stands.of_target {target : String} (h : base.Stands earlier target g) (name : String) :
    base.Stands (.addAlias name target :: earlier) name g :=
  @aliased base [] earlier name target g h spared_nil

/-- The registry knows what each name stands for by its history. -/
theorem get?_edited_eq_some_iff :
    (base.edited edits).get? name = some g ↔ base.Stands edits name g := by
  constructor
  · intro h
    induction edits generalizing name g with
    | nil => exact .given h spared_nil
    | cons e earlier ih =>
      by_cases he : ((base.edited earlier).edit e).1 = .ok () → e.name ≠ name
      · exact (ih ((get?_edit_other he).symm.trans h)).cons he
      · obtain ⟨hok, rfl⟩ : ((base.edited earlier).edit e).1 = .ok () ∧ e.name = name := by
          simpa using he
        change ((base.edited earlier).edit e).2.get? e.name = some g at h
        obtain ⟨g', hg', hedit⟩ | ⟨name, target, g', rfl, htarget, hedit⟩ | ⟨_, _, rfl, _, hedit⟩ :=
          (base.edited earlier).edit_cases e
        · rw [hedit, get?_insert, if_pos rfl] at h
          cases h
          exact .of_definition hg'
        · rw [hedit, Edit.name, get?_insert, if_pos rfl] at h
          cases h
          exact (ih htarget).of_target name
        · rw [hedit] at hok
          cases hok
  · intro h
    induction h with
    | given h spared =>
      have hget := spared.get?_eq
      rw [List.append_nil] at hget
      exact hget.trans h
    | defined h spared =>
      rw [spared.get?_eq, edited, edit_definition h, get?_insert, if_pos rfl]
    | aliased _ spared ih =>
      rw [spared.get?_eq, edited, edit_alias _ ih, get?_insert, if_pos rfl]

theorem mem_describe {r : Registry} {name summary : String} :
    (name, summary) ∈ r.describe ↔ ∃ g, r.get? name = some g ∧ g.summary = summary := by
  simp only [describe, toList, get?, List.mem_map, Prod.exists, Prod.mk.injEq,
    Std.TreeMap.mem_toList_iff_getElem?_eq_some]
  constructor
  · rintro ⟨_, g, hget, rfl, rfl⟩
    exact ⟨g, hget, rfl⟩
  · rintro ⟨g, hget, rfl⟩
    exact ⟨name, g, hget, rfl, rfl⟩

theorem describe_names (r : Registry) : r.describe.map Prod.fst = r.names := by
  simp only [describe, toList, names, List.map_map, ← Std.TreeMap.map_fst_toList_eq_keys]
  rfl

theorem names_increasing (r : Registry) : r.names.Pairwise (· < ·) :=
  Std.TreeMap.ordered_keys.imp fun {a b} (h : compare a b = .lt) => compareOfLessAndEq_eq_lt.mp h

theorem contains_eq (r : Registry) (name : String) : r.contains name = (r.get? name).isSome :=
  Std.TreeMap.contains_eq_isSome_getElem?

/-- A registry is a map in which the last write wins. After any edits its names are listed once each
and in increasing order, and each resolves and is described by what it stands for: what the last
edit that succeeded in writing it gave it, and for an alias what its target stood for at the time.
An alias of a name that is not registered is refused and changes nothing. -/
theorem last_write_wins (base : Registry) (edits : List Edit) :
    let r := base.edited edits
    (r.describe.map Prod.fst).Pairwise (· < ·) ∧ r.size = r.describe.length ∧
    (∀ name, r.contains name = true ↔ name ∈ r.describe.map Prod.fst) ∧
    (∀ name, r.contains name = true ↔ ∃ g, base.Stands edits name g) ∧
    (∀ name g, base.Stands edits name g → (∀ args, r.resolveNamed name args = g.factory args) ∧
      ∀ summary, (name, summary) ∈ r.describe ↔ summary = g.summary) ∧
    ∀ name target, r.contains target = false →
      r.edit (.addAlias name target) = (.error (.unknown target name), r) := by
  intro r
  refine ⟨?_, ?_, fun name => ?_, fun name => ?_, fun name g h => ?_, fun name target h => ?_⟩
  · rw [describe_names]
    exact r.names_increasing
  · rw [describe, List.length_map]
    exact Std.TreeMap.length_toList.symm
  · rw [describe_names, names, Std.TreeMap.mem_keys]
    exact Std.TreeMap.contains_iff_mem
  · rw [contains_eq, Option.isSome_iff_exists]
    exact exists_congr fun g => get?_edited_eq_some_iff
  · have hget : r.get? name = some g := get?_edited_eq_some_iff.mpr h
    constructor
    · intro args
      rw [resolveNamed, resolveIn, hget]
    · intro summary
      rw [mem_describe, hget]
      simp [eq_comm]
  · rw [contains_eq, Option.isSome_eq_false_iff, Option.isNone_iff_eq_none] at h
    exact edit_alias_unknown name h

/-- An alias of an alias of `Trim`, which is then defined anew. -/
theorem last_write_wins_chain :
    let r := standard.edited [.registerSimple "Trim" "" id, .addAlias "Strip" "Cut",
      .addAlias "Cut" "Trim"]
    r.resolveNamed "Strip" [] = .ok [.ofText Text.trim] ∧
      r.resolveNamed "Trim" [] = .ok [.ofText id] ∧
      r.edit (.addAlias "Strip" "Nope") = (.error (.unknown "Nope" "Strip"), r) := by
  intro r
  obtain ⟨summary, hget⟩ := @standard_rewrite "Trim" .trim rfl
  have htarget : standard.Stands [] "Trim" _ := .given hget spared_nil
  have hstrip := ((htarget.of_target "Cut").of_target "Strip").cons
    (e := .registerSimple "Trim" "" id) fun _ => by decide
  have htrim : standard.Stands [.registerSimple "Trim" "" id, .addAlias "Strip" "Cut",
      .addAlias "Cut" "Trim"] "Trim" _ :=
    .of_definition (e := .registerSimple "Trim" "" id) rfl
  have hnope : r.contains "Nope" = false := by
    have hnone : r.get? "Nope" = none := by
      simp [r, edited, edit, addAlias, registerSimple, register, hget, get?_insert,
        @standard_unknown "Nope" rfl]
    rw [contains_eq, hnone]
    rfl
  obtain ⟨_, _, _, _, hresolves, hrefused⟩ := last_write_wins standard
    [.registerSimple "Trim" "" id, .addAlias "Strip" "Cut", .addAlias "Cut" "Trim"]
  exact ⟨(hresolves "Strip" _ hstrip).1 [], (hresolves "Trim" _ htrim).1 [],
    hrefused "Strip" "Nope" hnope⟩

end Registry

end PageFilters
