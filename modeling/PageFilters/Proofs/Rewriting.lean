import PageFilters.Proofs.Item
import PageFilters.Proofs.Paragraphs

namespace PageFilters

theorem Text.ofNat_ordinary {n : Nat} (h : n < 256) : Ordinary [Char.ofNat n] := by
  have hv : n.isValidChar := Or.inl (by omega)
  have hn : (Char.ofNat n).toNat = n := by rw [Char.ofNat, dif_pos hv]; rfl
  constructor
  · intro hc
    have he : Marker.opening.toNat = n := by rw [List.mem_singleton.mp hc, hn]
    have ho : Marker.opening.toNat = 57344 := by decide
    omega
  · intro hc
    have he : Marker.closing.toNat = n := by rw [List.mem_singleton.mp hc, hn]
    have ho : Marker.closing.toNat = 57345 := by decide
    omega

theorem Text.hexDigit_ordinary {n : Nat} (h : n < 16) : Ordinary [hexDigit n] := by
  apply ofNat_ordinary
  split
  next => omega
  next => omega

theorem Text.percentByte_ordinary (b : UInt8) : Ordinary (percentByte b) := by
  have hb : b.toNat < 256 := b.toNat_lt
  unfold percentByte
  split
  next => exact ofNat_ordinary hb
  next =>
    have hhigh : Ordinary [hexDigit (b.toNat / 16)] := hexDigit_ordinary (by omega)
    have hlow : Ordinary [hexDigit (b.toNat % 16)] := hexDigit_ordinary (by omega)
    exact ordinary_append.mpr ⟨(by decide : Ordinary ['%']), ordinary_append.mpr ⟨hhigh, hlow⟩⟩

theorem Text.uriEscape_ordinary (s : String) : Ordinary (uriEscape s).toList := by
  rw [uriEscape, String.toList_ofList]
  exact ordinary_flatMap fun b _ => percentByte_ordinary b

namespace Rewrite

/-- What becomes of a text that is all but one word. -/
def frame : Rewrite → String → String
  | htmlPara, s => "<p>\n" ++ s ++ "\n</p>\n"
  | _, s => s

/-- No marker of the nonce is torn. -/
def Spares (r : Rewrite) (nonce : String) : Prop :=
  ∀ n, r.apply (Marker.numbered nonce n).text = r.frame (Marker.numbered nonce n).text

theorem exists_scanner {r : Rewrite} (h : r ≠ .uriEscape) :
    ∃ (Mode : Type) (t : Scanner Mode), (∀ s, (r.apply s).toList = t.run t.start s.toList) ∧
      ∀ s, (r.frame s).toList = t.held t.start ++ s.toList ++ t.finish t.home := by
  cases r with
  | trim =>
    refine ⟨_, Scanner.trimming, ?_, ?_⟩
    · intro s
      rw [apply, Text.trim, String.toList_ofList]
      exact (Scanner.trimming_run s.toList).symm
    · intro s
      simp [frame, Scanner.trimming]
  | noBlankLines =>
    refine ⟨_, Scanner.filling, ?_, ?_⟩
    · intro s
      rw [apply, Text.noBlankLines, String.toList_ofList]
      exact ((Scanner.filling_run_both s.toList).2 [] rfl (by simp)).symm
    · intro s
      simp [frame, Scanner.filling]
  | htmlEscape =>
    refine ⟨_, Scanner.letters, ?_, ?_⟩
    · intro s
      rw [apply, Text.htmlEscape, String.toList_ofList]
      exact (Scanner.letters_run s.toList).symm
    · intro s
      simp [frame, Scanner.letters]
  | uriEscape => exact absurd rfl h
  | htmlPara =>
    refine ⟨_, Scanner.tagging, ?_, ?_⟩
    · intro s
      rw [apply, Text.htmlPara, String.toList_ofList]
      exact (Scanner.tagging_run s.toList).symm
    · intro s
      rw [frame, String.toList_append, String.toList_append]
      rfl

theorem renonce_eq_iff {Mode : Type} {t : Scanner Mode} {r : Rewrite} {nonce : String}
    (run : ∀ s, (r.apply s).toList = t.run t.start s.toList)
    (frame : ∀ s, (r.frame s).toList = t.held t.start ++ s.toList ++ t.finish t.home) :
    t.renonce nonce = nonce ↔ r.Spares nonce := by
  have happly : ∀ n, (r.apply (Marker.numbered nonce n).text).toList =
      (r.frame (Marker.numbered (t.renonce nonce) n).text).toList := by
    intro n
    rw [run, frame, Scanner.run, t.read_marker]
  constructor
  · intro h n
    rw [← String.toList_inj, happly, h]
  · intro h
    have hone := (happly 0).symm.trans (congrArg String.toList (h 0))
    rw [frame, frame, List.append_cancel_right_eq, List.append_cancel_left_eq,
      Marker.numbered_toList, Marker.numbered_toList] at hone
    exact (Marker.bodyChars_injective (List.append_cancel_right (List.cons.inj hone).2)).1

/-- Rewriting leaves words and markers with the same numbers behind, all of one nonce. -/
theorem exists_renonce {r : Rewrite} (h : r ≠ .uriEscape) (nonce : String) :
    ∃ other, (other = nonce ↔ r.Spares nonce) ∧
      (Ordinary nonce.toList → Ordinary other.toList) ∧
      ∀ ps, Piece.Plain ps → ∃ qs, r.apply (Piece.raw nonce ps) = Piece.raw other qs ∧
        Piece.Plain qs ∧ Piece.indices qs = Piece.indices ps := by
  obtain ⟨Mode, t, run, frame⟩ := exists_scanner h
  refine ⟨t.renonce nonce, renonce_eq_iff run frame, t.renonce_ordinary, ?_⟩
  intro ps plain
  obtain ⟨qs, hrun, hqs, hindices⟩ := @Scanner.run_raw _ t nonce _ _ t.held_start plain
  refine ⟨qs, ?_, hqs, hindices⟩
  rw [← String.toList_inj, run, hrun]

theorem apply_raw {r : Rewrite} {nonce : String} {ps : List Piece} (h : r ≠ .uriEscape)
    (plain : Piece.Plain ps) (spares : Piece.indices ps = [] ∨ r.Spares nonce) :
    ∃ qs, r.apply (Piece.raw nonce ps) = Piece.raw nonce qs ∧ Piece.Plain qs ∧
      Piece.indices qs = Piece.indices ps := by
  obtain ⟨other, hspares, _, hraw⟩ := exists_renonce h nonce
  obtain ⟨qs, happly, hqs, hindices⟩ := hraw ps plain
  refine ⟨qs, ?_, hqs, hindices⟩
  rw [happly]
  rcases spares with hnone | hkeeps
  · exact Piece.join_congr (by simp [hindices, hnone])
  · rw [hspares.mpr hkeeps]

/-- Nonces without white space and characters to escape are safe from all rewriting. -/
theorem spares_solid {r : Rewrite} (h : r ≠ .uriEscape) {nonce : String}
    (solid : ∀ c ∈ nonce.toList, Text.Solid c) : r.Spares nonce := by
  obtain ⟨Mode, t, run, frame⟩ := exists_scanner h
  exact (renonce_eq_iff run frame).mp (t.renonce_solid solid)

theorem opening_mem_apply {r : Rewrite} (h : r ≠ .uriEscape) {s : String}
    (hs : Marker.opening ∈ s.toList) : Marker.opening ∈ (r.apply s).toList := by
  obtain ⟨Mode, t, run, _⟩ := exists_scanner h
  rw [run, Scanner.run, List.mem_append]
  exact Or.inl (t.opening_mem_read hs)

theorem apply_ordinary (r : Rewrite) {s : String} (h : Ordinary s.toList) :
    Ordinary (r.apply s).toList := by
  by_cases hr : r = .uriEscape
  · subst hr
    exact Text.uriEscape_ordinary s
  · have hs : Piece.raw "" [.text s] = s := by simp [Piece.raw, Piece.join]
    have plain : Piece.Plain [.text s] := ⟨h, trivial⟩
    obtain ⟨qs, happly, hqs, hindices⟩ := apply_raw hr plain (Or.inl rfl)
    rw [hs] at happly
    rw [happly]
    exact Piece.join_ordinary hqs (by simp [hindices, Piece.indices])

end Rewrite

end PageFilters
