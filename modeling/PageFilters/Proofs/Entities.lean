import PageFilters.Proofs.Commuting

namespace PageFilters.Text

/-- The five entities, each with the character that it stands for. -/
def entities : List (List Char × Char) :=
  [("&amp;".toList, '&'), ("&lt;".toList, '<'), ("&gt;".toList, '>'), ("&quot;".toList, '"'),
    ("&#39;".toList, '\'')]

/-- The characters that have a meaning in HTML. -/
def specials : List Char := ['&', '<', '>', '"', '\'']

/-- The text with its entities replaced in one pass from left to right. -/
def unescapeChars : List Char → List Char
  | [] => []
  | c :: cs =>
    match entities.find? fun e => e.1.isPrefixOf (c :: cs) with
    | some (name, d) => d :: unescapeChars (cs.drop (name.length - 1))
    | none => c :: unescapeChars cs
termination_by cs => cs.length
decreasing_by
  all_goals simp only [List.length_drop, List.length_cons]
  all_goals omega

def htmlUnescape (s : String) : String := String.ofList (unescapeChars s.toList)

/-- A text in which no character has a meaning in HTML, the ampersands of entities apart. -/
structure Safe (cs : List Char) : Prop where
  plain : ∀ c ∈ ['<', '>', '"', '\''], c ∉ cs
  ampersand : ∀ rest, '&' :: rest <:+ cs → ∃ e ∈ entities, e.1 <+: '&' :: rest

section Names

variable {name : List Char} {c : Char}

theorem entity_of_mem (h : (name, c) ∈ entities) : entity c = name := by
  have hall : ∀ e ∈ entities, entity e.2 = e.1 := by decide
  exact hall (name, c) h

theorem entity_of_not_mem (h : c ∉ specials) : entity c = [c] := by
  simp only [specials, List.mem_cons, List.not_mem_nil, or_false, not_or] at h
  obtain ⟨hamp, hlt, hgt, hquot, hapos⟩ := h
  simp only [entity, hamp, hlt, hgt, hquot, hapos, if_false]

theorem entity_cases (c : Char) :
    (entity c, c) ∈ entities ∨ c ∉ specials ∧ entity c = [c] := by
  by_cases hc : c ∈ specials
  · have hspecials : specials = entities.map Prod.snd := rfl
    rw [hspecials, List.mem_map] at hc
    obtain ⟨⟨name, d⟩, he, rfl⟩ := hc
    rw [entity_of_mem he]
    exact .inl he
  · exact .inr ⟨hc, entity_of_not_mem hc⟩

theorem exists_of_mem_entities (h : (name, c) ∈ entities) :
    ∃ tail, name = '&' :: tail ∧ ∀ d ∈ tail, d ∉ specials := by
  have hall : ∀ e ∈ entities, e.1 = '&' :: e.1.tail ∧
      e.1.tail.all (!specials.contains ·) = true := by decide
  obtain ⟨hname, htail⟩ := hall (name, c) h
  exact ⟨name.tail, hname, fun d hd => by simpa using List.all_eq_true.mp htail d hd⟩

/-- No entity begins another one. -/
theorem find?_entity (h : (name, c) ∈ entities) (cs : List Char) :
    entities.find? (fun e => e.1.isPrefixOf (name ++ cs)) = some (name, c) := by
  simp only [entities, List.mem_cons, Prod.mk.injEq, List.not_mem_nil, or_false] at h
  rcases h with ⟨rfl, rfl⟩ | ⟨rfl, rfl⟩ | ⟨rfl, rfl⟩ | ⟨rfl, rfl⟩ | ⟨rfl, rfl⟩
  all_goals rfl

theorem find?_other (hc : c ≠ '&') (cs : List Char) :
    entities.find? (fun e => e.1.isPrefixOf (c :: cs)) = none := by
  refine List.find?_eq_none.mpr fun e he hprefix => ?_
  obtain ⟨tail, hname, _⟩ := exists_of_mem_entities he
  rw [hname, List.isPrefixOf_iff_prefix, List.cons_prefix_cons] at hprefix
  exact hc hprefix.1.symm

end Names

section Unescape

theorem unescapeChars_entity {name : List Char} {c : Char} (h : (name, c) ∈ entities)
    (cs : List Char) : unescapeChars (name ++ cs) = c :: unescapeChars cs := by
  have hfind := find?_entity h cs
  obtain ⟨tail, rfl, _⟩ := exists_of_mem_entities h
  rw [List.cons_append] at hfind ⊢
  rw [unescapeChars, hfind]
  simp

theorem unescapeChars_cons {c : Char} (hc : c ≠ '&') (cs : List Char) :
    unescapeChars (c :: cs) = c :: unescapeChars cs := by
  rw [unescapeChars, find?_other hc]

theorem unescapeChars_escapeChars (cs : List Char) : unescapeChars (escapeChars cs) = cs := by
  induction cs with
  | nil => simp [escapeChars, unescapeChars]
  | cons c cs ih =>
    rw [escapeChars_cons]
    rcases entity_cases c with he | ⟨hc, hentity⟩
    · rw [unescapeChars_entity he, ih]
    · have hamp : c ≠ '&' := by
        rintro rfl
        exact hc List.mem_cons_self
      rw [hentity, List.singleton_append, unescapeChars_cons hamp, ih]

end Unescape

section Safe

theorem suffix_of_not_mem {a : Char} {x rest cs : List Char} (ha : a ∉ x)
    (h : a :: rest <:+ x ++ cs) : a :: rest <:+ cs := by
  induction x with
  | nil => exact h
  | cons b x ih =>
    rcases List.suffix_cons_iff.mp h with heq | hrest
    · exact absurd (List.cons.inj heq).1 fun e => ha (by simp [e])
    · exact ih (fun hx => ha (List.mem_cons_of_mem b hx)) hrest

theorem safe_nil : Safe [] where
  plain := by simp
  ampersand rest h := by simp at h

theorem Safe.of_append {x cs : List Char} (h : Safe (x ++ cs)) : Safe cs where
  plain c hc hmem := h.plain c hc (List.mem_append_right x hmem)
  ampersand rest hrest := h.ampersand rest (hrest.trans (List.suffix_append x cs))

theorem Safe.append {x cs : List Char} (hx : ∀ c ∈ x, c ∉ specials)
    (h : Safe cs) : Safe (x ++ cs) where
  plain c hc hmem := by
    rcases List.mem_append.mp hmem with hmem | hmem
    · exact hx c hmem (List.mem_cons_of_mem '&' hc)
    · exact h.plain c hc hmem
  ampersand rest hrest :=
    h.ampersand rest (suffix_of_not_mem (fun hmem => hx _ hmem List.mem_cons_self) hrest)

theorem Safe.entity {name cs : List Char} {c : Char} (he : (name, c) ∈ entities) (h : Safe cs) :
    Safe (name ++ cs) := by
  obtain ⟨tail, rfl, htail⟩ := exists_of_mem_entities he
  have hrest := Safe.append htail h
  refine ⟨fun d hd hmem => ?_, fun rest hsuffix => ?_⟩
  · rcases List.mem_cons.mp hmem with rfl | hmem
    · exact absurd hd (by decide)
    · exact hrest.plain d hd hmem
  · rcases List.suffix_cons_iff.mp hsuffix with heq | hsuffix
    · rw [heq]
      exact ⟨_, he, List.prefix_append _ cs⟩
    · exact hrest.ampersand rest hsuffix

theorem safe_escapeChars (cs : List Char) : Safe (escapeChars cs) := by
  induction cs with
  | nil => exact safe_nil
  | cons c cs ih =>
    rw [escapeChars_cons]
    rcases entity_cases c with he | ⟨hc, hentity⟩
    · exact ih.entity he
    · rw [hentity]
      exact Safe.append (List.forall_mem_singleton.mpr hc) ih

/-- A safe text is the escape of the text that its entities stand for. -/
theorem Safe.escapeChars_unescapeChars {cs : List Char} (h : Safe cs) :
    escapeChars (unescapeChars cs) = cs := by
  fun_induction unescapeChars cs with
  | case1 => rfl
  | case2 c cs name d hfind ih =>
    have he := List.mem_of_find?_eq_some hfind
    have hname := List.find?_some hfind
    obtain ⟨rest, hrest⟩ : ∃ rest, name ++ rest = c :: cs := List.isPrefixOf_iff_prefix.mp hname
    obtain ⟨tail, rfl, _⟩ := exists_of_mem_entities he
    rw [List.cons_append] at hrest
    obtain ⟨rfl, rfl⟩ := List.cons.inj hrest
    have hdrop : (tail ++ rest).drop (('&' :: tail).length - 1) = rest := by simp
    rw [hdrop] at ih
    rw [hdrop, escapeChars_cons, entity_of_mem he, ih (Safe.of_append (x := '&' :: tail) h)]
    rfl
  | case3 c cs hfind ih =>
    have hamp : c ≠ '&' := by
      rintro rfl
      obtain ⟨e, he, hprefix⟩ := h.ampersand cs List.suffix_rfl
      exact List.find?_eq_none.mp hfind e he (List.isPrefixOf_iff_prefix.mpr hprefix)
    have hc : c ∉ specials := by
      intro hmem
      rcases List.mem_cons.mp hmem with rfl | hmem
      · exact hamp rfl
      · exact h.plain c hmem List.mem_cons_self
    rw [escapeChars_cons, entity_of_not_mem hc, ih (Safe.of_append (x := [c]) h)]
    rfl

end Safe

/-- Escaping is safe and loses nothing: the result is a safe text, in which one pass over the
entities restores what was escaped. Every safe text is such a result. -/
theorem htmlEscape_faithful (s : String) :
    Safe (htmlEscape s).toList ∧
    htmlUnescape (htmlEscape s) = s ∧
    (∀ t, htmlEscape t = htmlEscape s ↔ t = s) ∧
    (∀ t, htmlEscape (s ++ t) = htmlEscape s ++ htmlEscape t) ∧
    (Safe s.toList ↔ htmlEscape (htmlUnescape s) = s) := by
  have hback : ∀ t, htmlUnescape (htmlEscape t) = t := by
    intro t
    rw [htmlUnescape, htmlEscape, String.toList_ofList, unescapeChars_escapeChars,
      String.ofList_toList]
  have hsafe : ∀ t, Safe (htmlEscape t).toList := by
    intro t
    rw [htmlEscape, String.toList_ofList]
    exact safe_escapeChars _
  refine ⟨hsafe s, hback s, fun t => ⟨fun h => ?_, congrArg htmlEscape⟩, fun t => ?_,
    fun h => ?_, fun h => h ▸ hsafe _⟩
  · rw [← hback t, h, hback]
  · simp [htmlEscape, escapeChars_append]
  · rw [htmlEscape, htmlUnescape, String.toList_ofList, h.escapeChars_unescapeChars,
      String.ofList_toList]

end PageFilters.Text
