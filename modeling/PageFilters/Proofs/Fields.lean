import PageFilters.Data.Place

namespace PageFilters

namespace Data

variable {fields below inner : List (String × Data)} {name other : String} {value d : Data}

def isTable : Data → Bool
  | table _ => true
  | _ => false

/-- The fields of a table. Nothing else has any. -/
def tableFields : Data → List (String × Data)
  | table fields => fields
  | _ => []

theorem eq_table_of_isTable (h : d.isTable = true) : d = table d.tableFields := by
  cases d with
  | table fields => rfl
  | _ => cases h

theorem overlay_of_not_isTable (h : d.isTable = false) (below : Data) : d.overlay below = d := by
  cases d with
  | table fields => cases h
  | _ => rw [overlay] <;> simp

theorem lookup_cons_eq (name other : String) (value : Data) (fields : List (String × Data)) :
    ((name, value) :: fields).lookup other =
      if other = name then some value else fields.lookup other := by
  rw [List.lookup_cons]
  by_cases h : other = name
  · simp [h]
  · rw [beq_false_of_ne h, if_neg h]

theorem field?_table (fields : List (String × Data)) (name : String) :
    (table fields).field? name = fields.reverse.lookup name := by
  rw [field?]
  induction fields.reverse with
  | nil => rfl
  | cons field fields ih =>
    obtain ⟨key, value⟩ := field
    rw [lookup_cons_eq, ← ih]
    by_cases h : name = key
    · rw [List.find?_cons_of_pos (by simpa using h.symm), if_pos h, Option.map_some]
    · rw [List.find?_cons_of_neg (by simpa using Ne.symm h), if_neg h]

theorem field?_cons (name other : String) (value : Data) (fields : List (String × Data)) :
    (table ((name, value) :: fields)).field? other =
      ((table fields).field? other).or (if other = name then some value else none) := by
  rw [field?_table, field?_table, List.reverse_cons, List.lookup_append, lookup_cons_eq,
    List.lookup_nil]

theorem lookup_replace (fields : List (String × Data)) (name other : String) (value : Data) :
    (fields.map fun (key, old) => if key == name then (key, value) else (key, old)).lookup other =
      if other = name then (fields.lookup other).map fun _ => value else fields.lookup other := by
  induction fields with
  | nil => simp
  | cons field fields ih =>
    obtain ⟨key, old⟩ := field
    rw [List.map_cons, lookup_cons_eq]
    by_cases hkey : key = name
    · simp only [beq_iff_eq.mpr hkey, if_true, lookup_cons_eq, ih]
      by_cases hother : other = key
      · simp [hother, hkey]
      · simp [hother]
    · simp only [beq_false_of_ne hkey, Bool.false_eq_true, if_false, lookup_cons_eq, ih]
      by_cases hother : other = key
      · simp [hother, hkey]
      · simp [hother]

theorem lookup_replace_of_isSome (h : (fields.lookup name).isSome = true) (other : String)
    (value : Data) :
    (fields.map fun (key, old) => if key == name then (key, value) else (key, old)).lookup other =
      if other = name then some value else fields.lookup other := by
  obtain ⟨old, hold⟩ := Option.isSome_iff_exists.mp h
  rw [lookup_replace]
  by_cases hother : other = name
  · rw [if_pos hother, if_pos hother, hother, hold, Option.map_some]
  · rw [if_neg hother, if_neg hother]

theorem any_eq_isSome (fields : List (String × Data)) (name : String) :
    (fields.any fun (key, _) => key == name) = (fields.lookup name).isSome := by
  induction fields with
  | nil => rfl
  | cons field fields ih =>
    obtain ⟨key, value⟩ := field
    rw [List.any_cons, ih, lookup_cons_eq]
    by_cases h : name = key
    · simp [h]
    · simp [h, Ne.symm h]

theorem lookup_reverse_isSome (fields : List (String × Data)) (name : String) :
    (fields.reverse.lookup name).isSome = (fields.lookup name).isSome := by
  rw [← any_eq_isSome, ← any_eq_isSome, List.any_reverse]

theorem lookup_setField (fields : List (String × Data)) (name other : String) (value : Data) :
    (setField fields name value).lookup other =
      if other = name then some value else fields.lookup other := by
  unfold setField
  rw [any_eq_isSome]
  split
  next h => exact lookup_replace_of_isSome h other value
  next h =>
    rw [List.lookup_append, lookup_cons_eq, List.lookup_nil]
    by_cases hother : other = name
    · subst hother
      rw [Option.not_isSome_iff_eq_none.mp h, Option.none_or]
    · simp [hother]

theorem field?_setField (fields : List (String × Data)) (name other : String) (value : Data) :
    (table (setField fields name value)).field? other =
      if other = name then some value else (table fields).field? other := by
  rw [field?_table, field?_table]
  unfold setField
  rw [any_eq_isSome]
  split
  next h =>
    rw [← lookup_reverse_isSome] at h
    rw [← List.map_reverse]
    exact lookup_replace_of_isSome h other value
  next h => rw [List.reverse_append, List.reverse_singleton, List.singleton_append, lookup_cons_eq]

/-- Fields of which the first and the last under a name are the same. -/
def Settled (fields : List (String × Data)) : Prop :=
  ∀ name, (table fields).field? name = fields.lookup name

theorem settled_nil : Settled [] := fun _ => rfl

theorem Settled.setField (h : Settled fields) (name : String) (value : Data) :
    Settled (setField fields name value) := by
  intro other
  rw [field?_setField, lookup_setField, h]

theorem Settled.overlayFields (h : Settled below) (fields : List (String × Data)) :
    Settled (overlayFields fields below) := by
  induction fields generalizing below with
  | nil => exact h
  | cons field fields ih => exact ih (h.setField _ _)

/-- Fields laid over others hide them, unless they are tables. -/
theorem lookup_overlayFields (h : ∀ value, (table fields).field? name = some value →
    value.isTable = false) (below : List (String × Data)) :
    (overlayFields fields below).lookup name =
      ((table fields).field? name).or (below.lookup name) := by
  induction fields generalizing below with
  | nil => rfl
  | cons field fields ih =>
    obtain ⟨key, value⟩ := field
    rw [field?_cons] at h ⊢
    rw [overlayFields, ih (fun value hvalue => h value (by rw [hvalue]; rfl)), lookup_setField]
    cases hlater : (table fields).field? name with
    | some later => rfl
    | none =>
      by_cases hkey : name = key
      · have hvalue := h value (by rw [hlater, if_pos hkey]; rfl)
        simp [hkey, overlay_of_not_isTable hvalue]
      · simp [hkey]

/-- Fields with a section among them that holds others. As long as there is none it holds
nothing. -/
structure Sectioned (sect : String) (fields inner : List (String × Data)) : Prop where
  outer : Settled fields
  settled : Settled inner
  found : fields.lookup sect = some (table inner) ∨ fields.lookup sect = none ∧ inner = []

theorem Sectioned.nil (sect : String) : Sectioned sect [] [] :=
  ⟨settled_nil, settled_nil, .inr ⟨rfl, rfl⟩⟩

theorem Sectioned.unique {sect : String} {inner' : List (String × Data)}
    (h : Sectioned sect fields inner) (h' : Sectioned sect fields inner') : inner = inner' := by
  obtain hfound | ⟨hfound, rfl⟩ := h.found
  · obtain hfound' | ⟨hfound', _⟩ := h'.found
    · cases hfound.symm.trans hfound'
      rfl
    · cases hfound.symm.trans hfound'
  · obtain hfound' | ⟨_, rfl⟩ := h'.found
    · cases hfound.symm.trans hfound'
    · rfl

end Data

end PageFilters
