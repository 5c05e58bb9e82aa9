import PageFilters.Proofs.Decoding
import PageFilters.Proofs.Occurrence

namespace PageFilters

/-- A text put together from ordinary words and whole markers. -/
def Text.Marked (text : String) : Prop :=
  ∃ (handed : Nat → Marker) (ps : List Piece), Piece.Plain ps ∧
    (∀ i ∈ Piece.indices ps, (handed i).Fenced) ∧
    text = Piece.join (fun i => (handed i).text) ps

/-- The marker stands in the text. -/
def Marker.Occurs (m : Marker) (text : String) : Prop := ∃ x y, text = x ++ m.text ++ y

/-- The search for the marker goes through the words and on in what follows them. -/
def Marker.Passes (m : Marker) (words : String) : Prop :=
  ∀ replacement text, Text.substituteFirst m.text replacement (words ++ text) =
    (Text.substituteFirst m.text replacement text).map (words ++ ·)

namespace Marker

variable {m n : Marker} {words : String}

theorem passes_of_cutFirst (h : ∀ v, Text.cutFirst m.text.toList (words.toList ++ v) =
    (Text.cutFirst m.text.toList v).map fun cut => (words.toList ++ cut.1, cut.2)) :
    m.Passes words := by
  intro replacement text
  simp only [Text.substituteFirst, Text.replaceFirst, String.toList_append, h, Option.map_map]
  refine congrArg (fun f => Option.map f _) (funext fun cut => ?_)
  simp [String.ofList_append]

theorem passes_words (hm : m.Fenced) (hw : Ordinary words.toList) : m.Passes words := by
  obtain ⟨nonce, k, _, rfl⟩ := hm
  refine passes_of_cutFirst fun v => ?_
  rw [numbered_toList]
  exact Text.cutFirst_skip v hw.1

theorem passes_other (hm : m.Fenced) (hn : n.Fenced) (hne : m ≠ n) : m.Passes n.text := by
  obtain ⟨nonce, k, hnonce, rfl⟩ := hm
  obtain ⟨other, l, hother, rfl⟩ := hn
  refine passes_of_cutFirst fun v => ?_
  have hnumber : nonce = other → k ≠ l := by
    rintro rfl rfl
    exact hne rfl
  simpa [numbered] using Text.cutFirst_marker_other hnonce hother hnumber v

theorem Passes.append {rest : String} (hw : m.Passes words) (hr : m.Passes rest) :
    m.Passes (words ++ rest) := by
  intro replacement text
  rw [String.append_assoc, hw, hr, Option.map_map]
  exact congrArg (fun f => Option.map f _) (funext fun t => by simp [String.append_assoc])

theorem passes_join {handed : Nat → Marker} {ps : List Piece} (hm : m.Fenced)
    (plain : Piece.Plain ps) (fenced : ∀ i ∈ Piece.indices ps, (handed i).Fenced)
    (h : ∀ i ∈ Piece.indices ps, m ≠ handed i) :
    m.Passes (Piece.join (fun i => (handed i).text) ps) := by
  induction ps with
  | nil =>
    intro replacement text
    simp [Piece.join]
  | cons p ps ih =>
    cases p with
    | text words => exact (passes_words hm plain.1).append (ih plain.2 fenced h)
    | marker i =>
      have hi := List.mem_cons_self (a := i) (l := Piece.indices ps)
      exact (passes_other hm (fenced i hi) (h i hi)).append
        (ih plain (fun j hj => fenced j (List.mem_cons_of_mem i hj))
          fun j hj => h j (List.mem_cons_of_mem i hj))

theorem occurs_join_iff {handed : Nat → Marker} {ps : List Piece} (hm : m.Fenced)
    (plain : Piece.Plain ps) (fenced : ∀ i ∈ Piece.indices ps, (handed i).Fenced) :
    m.Occurs (Piece.join (fun i => (handed i).text) ps) ↔
      ∃ i ∈ Piece.indices ps, handed i = m := by
  simp only [Occurs, Piece.join_eq_append_iff plain fenced hm]
  constructor
  · rintro ⟨_, _, front, i, back, rfl, hi, _, _⟩
    exact ⟨i, by simp [Piece.indices_append, Piece.indices], hi⟩
  · rintro ⟨i, hi, heq⟩
    obtain ⟨front, back, hps, _⟩ := Piece.exists_first_marker hi
    exact ⟨_, _, front, i, back, hps, heq, rfl, rfl⟩

/-- The search for a marker passes a marked text that does not hold it. -/
theorem passes_marked (hm : m.Fenced) (ht : Text.Marked words) (h : ¬ m.Occurs words) :
    m.Passes words := by
  obtain ⟨handed, ps, plain, fenced, rfl⟩ := ht
  have hother : ∀ i ∈ Piece.indices ps, m ≠ handed i := by
    intro i hi heq
    exact h ((occurs_join_iff hm plain fenced).mpr ⟨i, hi, heq.symm⟩)
  exact passes_join hm plain fenced hother

theorem Passes.substitute (h : m.Passes words) (replacement text : String) :
    Text.substitute m.text replacement (words ++ text) =
      (words ++ (Text.substitute m.text replacement text).1,
        (Text.substitute m.text replacement text).2) := by
  unfold Text.substitute
  rw [h]
  cases Text.substituteFirst m.text replacement text with
  | none => rfl
  | some out => rfl

theorem substitute_self (m : Marker) (replacement text : String) :
    Text.substitute m.text replacement (m.text ++ text) = (replacement ++ text, true) := by
  have hcut : Text.substituteFirst m.text replacement (m.text ++ text) =
      some (replacement ++ text) :=
    Text.substituteFirst_eq_some_iff.mpr ⟨"", text, by simp, by simp, fun _ _ _ => Nat.zero_le _⟩
  rw [Text.substitute, hcut]

theorem Fenced.substitute_empty (hm : m.Fenced) (replacement : String) :
    Text.substitute m.text replacement "" = ("", false) := by
  obtain ⟨nonce, k, _, rfl⟩ := hm
  simp [Text.substitute, Text.substituteFirst, Text.replaceFirst, Text.cutFirst, numbered_toList]

end Marker

namespace Text

/-- Two substitutions end in the same text in either order, and each finds its marker or misses it
whether it comes first or second. -/
def Interchange (m₁ m₂ : Marker) (r₁ r₂ text : String) : Prop :=
  ∃ out,
    substitute m₂.text r₂ (substitute m₁.text r₁ text).1 = (out, (substitute m₂.text r₂ text).2) ∧
    substitute m₁.text r₁ (substitute m₂.text r₂ text).1 = (out, (substitute m₁.text r₁ text).2)

namespace Interchange

variable {m₁ m₂ : Marker} {r₁ r₂ words text : String}

theorem symm (h : Interchange m₁ m₂ r₁ r₂ text) : Interchange m₂ m₁ r₂ r₁ text :=
  let ⟨out, h₁, h₂⟩ := h
  ⟨out, h₂, h₁⟩

/-- What neither search stops in may stand in front. -/
theorem behind (h₁ : m₁.Passes words) (h₂ : m₂.Passes words)
    (h : Interchange m₁ m₂ r₁ r₂ text) : Interchange m₁ m₂ r₁ r₂ (words ++ text) := by
  obtain ⟨out, ho₁, ho₂⟩ := h
  refine ⟨words ++ out, ?_, ?_⟩
  · rw [h₁.substitute, h₂.substitute, h₂.substitute, ho₁]
  · rw [h₂.substitute, h₁.substitute, h₁.substitute, ho₂]

/-- The first search stops at once. The second one goes on behind the marker, and also behind the
text that takes its place. -/
theorem at_marker (hm : m₂.Passes m₁.text) (hr : m₂.Passes r₁) :
    Interchange m₁ m₂ r₁ r₂ (m₁.text ++ text) := by
  refine ⟨r₁ ++ (substitute m₂.text r₂ text).1, ?_, ?_⟩
  · rw [Marker.substitute_self, hr.substitute, hm.substitute]
  · rw [hm.substitute, Marker.substitute_self, Marker.substitute_self]

end Interchange

/-- Of two different markers each can be replaced by a text that does not hold the other one, in
either order. -/
theorem interchange {m₁ m₂ : Marker} {r₁ r₂ buffer : String} (hm₁ : m₁.Fenced) (hm₂ : m₂.Fenced)
    (hne : m₁ ≠ m₂) (hr₁ : m₂.Passes r₁) (hr₂ : m₁.Passes r₂) (hb : Marked buffer) :
    Interchange m₁ m₂ r₁ r₂ buffer := by
  obtain ⟨handed, ps, plain, fenced, rfl⟩ := hb
  induction ps with
  | nil =>
    have hnil₁ := hm₁.substitute_empty r₁
    have hnil₂ := hm₂.substitute_empty r₂
    exact ⟨"", by simp [Piece.join, hnil₁, hnil₂], by simp [Piece.join, hnil₁, hnil₂]⟩
  | cons p ps ih =>
    cases p with
    | text words =>
      exact (ih plain.2 fenced).behind (Marker.passes_words hm₁ plain.1)
        (Marker.passes_words hm₂ plain.1)
    | marker i =>
      have hi : (handed i).Fenced := fenced i List.mem_cons_self
      have hrest := ih plain fun j hj => fenced j (List.mem_cons_of_mem i hj)
      by_cases h₁ : m₁ = handed i
      · rw [Piece.join, ← h₁]
        exact .at_marker (Marker.passes_other hm₂ hm₁ hne.symm) hr₁
      · by_cases h₂ : m₂ = handed i
        · rw [Piece.join, ← h₂]
          exact (Interchange.at_marker (Marker.passes_other hm₁ hm₂ hne) hr₂).symm
        · -- Both searches go through a third marker.
          exact hrest.behind (Marker.passes_other hm₁ hi h₁) (Marker.passes_other hm₂ hi h₂)

/-- In a text of ordinary words and whole markers, the order in which two different markers are
replaced does not matter if neither replacement holds the other marker. Each substitution replaces
the first occurrence of its marker and nothing else. -/
theorem substitutions_commute {m₁ m₂ : Marker} {r₁ r₂ buffer : String} (hm₁ : m₁.Fenced)
    (hm₂ : m₂.Fenced) (hne : m₁ ≠ m₂) (hb : Marked buffer) (hr₁ : Marked r₁) (hr₂ : Marked r₂)
    (h₂₁ : ¬ m₂.Occurs r₁) (h₁₂ : ¬ m₁.Occurs r₂) :
    Interchange m₁ m₂ r₁ r₂ buffer ∧
      ∀ needle replacement text,
        Replaced needle replacement text (substitute needle replacement text) :=
  ⟨interchange hm₁ hm₂ hne (Marker.passes_marked hm₂ hr₁ h₂₁) (Marker.passes_marked hm₁ hr₂ h₁₂) hb,
    replaced_substitute⟩

theorem substitute_raw {nonce : String} (hn : Ordinary nonce.toList) {k : Nat}
    {before : List Piece} (words after : List Piece) (hp : Piece.Plain before)
    (hk : k ∉ Piece.indices before) :
    substitute (Marker.numbered nonce k).text (Piece.raw nonce words)
        (Piece.raw nonce (before ++ .marker k :: after)) =
      (Piece.raw nonce (before ++ words ++ after), true) := by
  rw [substitute, Piece.substituteFirst_raw_present hn _ hp hk]
  simp only [Piece.raw_append]

/-- The first marker of a source, which comes back with its own replacement, and the eleventh, which
begins like it. -/
theorem substitutions_commute_lookalikes :
    ∃ m₁ m₂ r₁ r₂ buffer, m₁ = Marker.numbered "n" 1 ∧ m₂ = Marker.numbered "n" 11 ∧
      r₁ = Piece.raw "n" [.text "<", .marker 1, .text ">"] ∧ r₂ = Piece.raw "n" [.text "late"] ∧
      buffer = Piece.raw "n" [.marker 11, .marker 1, .marker 1] ∧ m₁ ≠ m₂ ∧ Marked buffer ∧
      ¬ m₂.Occurs r₁ ∧ ¬ m₁.Occurs r₂ ∧ Interchange m₁ m₂ r₁ r₂ buffer ∧
      substitute m₂.text r₂ (substitute m₁.text r₁ buffer).1 =
        (Piece.raw "n" [.text "late", .text "<", .marker 1, .text ">", .marker 1], true) := by
  have hn : Ordinary "n".toList := by decide
  have hfenced : ∀ k, (Marker.numbered "n" k).Fenced := fun k => ⟨"n", k, hn, rfl⟩
  have hne : ∀ k l, k ≠ l → Marker.numbered "n" k ≠ Marker.numbered "n" l :=
    fun k l h heq => h (Marker.numbered_injective (congrArg Marker.text heq)).2
  have hmarked : ∀ ps, Piece.Plain ps → Marked (Piece.raw "n" ps) :=
    fun ps plain => ⟨_, ps, plain, fun i _ => hfenced i, rfl⟩
  have habsent : ∀ k ps, Piece.Plain ps → k ∉ Piece.indices ps →
      ¬ (Marker.numbered "n" k).Occurs (Piece.raw "n" ps) := by
    intro k ps plain hk h
    obtain ⟨i, hi, heq⟩ :=
      (Marker.occurs_join_iff (hfenced k) plain fun i _ => hfenced i).mp h
    exact hne i k (fun e => hk (e ▸ hi)) heq
  have hb := hmarked [.marker 11, .marker 1, .marker 1] trivial
  have hr₁ := hmarked [.text "<", .marker 1, .text ">"] (by decide)
  have hr₂ := hmarked [.text "late"] (by decide)
  have h₂₁ := habsent 11 [.text "<", .marker 1, .text ">"] (by decide) (by decide)
  have h₁₂ := habsent 1 [.text "late"] (by decide) (by decide)
  have hcommute := (substitutions_commute (hfenced 1) (hfenced 11) (hne 1 11 (by decide)) hb hr₁ hr₂
    h₂₁ h₁₂).1
  refine ⟨_, _, _, _, _, rfl, rfl, rfl, rfl, rfl, hne 1 11 (by decide), hb, h₂₁, h₁₂, hcommute, ?_⟩
  have hfirst := substitute_raw hn [.text "<", .marker 1, .text ">"] [.marker 1]
    (show Piece.Plain [.marker 11] from trivial) (show 1 ∉ Piece.indices [.marker 11] by decide)
  have hsecond := substitute_raw hn [.text "late"] [.text "<", .marker 1, .text ">", .marker 1]
    (show Piece.Plain [] from trivial) (show 11 ∉ Piece.indices [] by decide)
  rw [List.singleton_append] at hfirst
  rw [hfirst]
  exact hsecond

end Text

end PageFilters
