import PageFilters.Proofs.Piece
import PageFilters.Text.Html

namespace PageFilters

/-- A character that is neither white space nor written as an entity. -/
def Text.Solid (c : Char) : Prop := isSpace c = false ∧ entity c = [c]

instance (c : Char) : Decidable (Text.Solid c) :=
  inferInstanceAs (Decidable (_ ∧ _))

theorem Text.solid_of_all {cs : List Char} (h : (cs.all fun c => Solid c) = true) :
    ∀ c ∈ cs, Solid c :=
  fun c hc => of_decide_eq_true (List.all_eq_true.mp h c hc)

theorem Text.solid_of_isDigit {c : Char} (h : c.isDigit = true) : Solid c := by
  have hsolid : ∀ n < 58, 48 ≤ n → Solid (Char.ofNat n) := by decide
  obtain ⟨hlow, hhigh⟩ := Char.isDigit_iff_toNat.mp h
  rw [← Char.ofNat_toNat c]
  exact hsolid c.toNat (Nat.lt_succ_of_le hhigh) hlow

/-- A way to rewrite a text character by character. What a mode holds back goes out in front of the
next solid character, after which the scanner is in its home mode. -/
structure Scanner (Mode : Type) where
  start : Mode
  home : Mode
  held : Mode → List Char
  step : Mode → Char → List Char × Mode
  finish : Mode → List Char
  held_start : Ordinary (held start)
  held_home : held home = []
  step_solid : ∀ m c, Text.Solid c → step m c = (held m ++ [c], home)
  step_inner : ∀ m c, Ordinary (held m) → Ordinary [c] →
    Ordinary (step m c).1 ∧ Ordinary (held (step m c).2)
  finish_ordinary : ∀ m, Ordinary (held m) → Ordinary (finish m)

namespace Scanner

variable {Mode : Type} (t : Scanner Mode)

/-- What goes out while the characters are read, and the mode behind them. -/
def read : Mode → List Char → List Char × Mode
  | m, [] => ([], m)
  | m, c :: cs => ((t.step m c).1 ++ (read (t.step m c).2 cs).1, (read (t.step m c).2 cs).2)

def run (m : Mode) (cs : List Char) : List Char := (t.read m cs).1 ++ t.finish (t.read m cs).2

theorem run_nil (m : Mode) : t.run m [] = t.finish m := rfl

theorem run_cons (m : Mode) (c : Char) (cs : List Char) :
    t.run m (c :: cs) = (t.step m c).1 ++ t.run (t.step m c).2 cs := by
  simp only [run, read, List.append_assoc]

theorem read_append (m : Mode) (cs ds : List Char) :
    t.read m (cs ++ ds) =
      ((t.read m cs).1 ++ (t.read (t.read m cs).2 ds).1, (t.read (t.read m cs).2 ds).2) := by
  induction cs generalizing m with
  | nil => rfl
  | cons c cs ih => simp only [List.cons_append, read, ih, List.append_assoc]

theorem run_append (m : Mode) (cs ds : List Char) :
    t.run m (cs ++ ds) = (t.read m cs).1 ++ t.run (t.read m cs).2 ds := by
  simp only [run, read_append, List.append_assoc]

theorem read_ordinary {m : Mode} {cs : List Char} (hm : Ordinary (t.held m))
    (hcs : Ordinary cs) :
    Ordinary (t.read m cs).1 ∧ Ordinary (t.held (t.read m cs).2) := by
  induction cs generalizing m with
  | nil => exact ⟨ordinary_nil, hm⟩
  | cons c cs ih =>
    rw [← List.singleton_append, ordinary_append] at hcs
    obtain ⟨hout, hnext⟩ := t.step_inner m c hm hcs.1
    obtain ⟨hrest, hlast⟩ := ih hnext hcs.2
    exact ⟨ordinary_append.mpr ⟨hout, hrest⟩, hlast⟩

theorem read_solid {m : Mode} {c : Char} {cs : List Char} (hc : Text.Solid c)
    (hcs : ∀ d ∈ cs, Text.Solid d) : t.read m (c :: cs) = (t.held m ++ c :: cs, t.home) := by
  induction cs generalizing m c with
  | nil => simp [read, t.step_solid m c hc]
  | cons d cs ih =>
    have hrest := ih (m := t.home) (hcs d List.mem_cons_self)
      fun e he => hcs e (List.mem_cons_of_mem d he)
    rw [read, t.step_solid m c hc, hrest]
    simp [t.held_home]

/-- What the nonce of a marker becomes, wherever the marker stands. -/
def renonce (nonce : String) : String :=
  String.ofList ((t.read t.home nonce.toList).1 ++ t.held (t.read t.home nonce.toList).2)

theorem renonce_ordinary {nonce : String} (h : Ordinary nonce.toList) :
    Ordinary (t.renonce nonce).toList := by
  have hhome : Ordinary (t.held t.home) := by rw [t.held_home]; exact ordinary_nil
  obtain ⟨hout, hlast⟩ := t.read_ordinary hhome h
  rw [renonce, String.toList_ofList]
  exact ordinary_append.mpr ⟨hout, hlast⟩

theorem renonce_solid {nonce : String} (h : ∀ c ∈ nonce.toList, Text.Solid c) :
    t.renonce nonce = nonce := by
  rw [← String.toList_inj, renonce, String.toList_ofList]
  cases hc : nonce.toList with
  | nil => simp [read, t.held_home]
  | cons c cs =>
    rw [hc] at h
    rw [t.read_solid (h c List.mem_cons_self) fun d hd => h d (List.mem_cons_of_mem c hd)]
    simp [t.held_home]

theorem read_marker (m : Mode) (nonce : String) (n : Nat) :
    t.read m (Marker.numbered nonce n).text.toList =
      (t.held m ++ (Marker.numbered (t.renonce nonce) n).text.toList, t.home) := by
  have hfront : ∀ d ∈ Marker.stem, Text.Solid d := Text.solid_of_all (by decide)
  have hend : ∀ d ∈ ['_', '_', Marker.closing], Text.Solid d := Text.solid_of_all (by decide)
  have hback : ∀ d ∈ Nat.toDigits 10 n ++ ['_', '_', Marker.closing], Text.Solid d := by
    intro d hd
    rcases List.mem_append.mp hd with hd | hd
    · exact Text.solid_of_isDigit (Nat.isDigit_of_mem_toDigits (by omega) (by omega) hd)
    · exact hend d hd
  -- Around the nonce all characters of a marker are solid: only the nonce can change.
  have hsplit : ∀ nonce : String, (Marker.numbered nonce n).text.toList =
      Marker.opening :: Marker.stem ++
        (nonce.toList ++ '_' :: (Nat.toDigits 10 n ++ ['_', '_', Marker.closing])) := by
    intro nonce
    simp [Marker.numbered_toList, Marker.bodyChars]
  rw [hsplit, hsplit, read_append, t.read_solid (by decide) hfront, read_append,
    t.read_solid (by decide) hback, renonce, String.toList_ofList]
  simp

theorem opening_mem_read {m : Mode} {cs : List Char} (h : Marker.opening ∈ cs) :
    Marker.opening ∈ (t.read m cs).1 := by
  obtain ⟨before, after, rfl⟩ := List.append_of_mem h
  rw [read_append, read, t.step_solid _ _ (by decide)]
  simp

/-- A text of words and markers becomes one with the same numbers. -/
theorem run_raw {nonce : String} {m : Mode} {ps : List Piece} (hm : Ordinary (t.held m))
    (plain : Piece.Plain ps) :
    ∃ qs, t.run m (Piece.raw nonce ps).toList = (Piece.raw (t.renonce nonce) qs).toList ∧
      Piece.Plain qs ∧ Piece.indices qs = Piece.indices ps := by
  induction ps generalizing m with
  | nil =>
    refine ⟨[.text (String.ofList (t.finish m))], ?_, ?_, rfl⟩
    · simp [Piece.raw, Piece.join, run_nil]
    · simpa [Piece.Plain] using t.finish_ordinary m hm
  | cons p ps ih =>
    cases p with
    | text words =>
      obtain ⟨hout, hnext⟩ := t.read_ordinary hm plain.1
      obtain ⟨qs, hrun, hqs, hindices⟩ := ih hnext plain.2
      refine ⟨.text (String.ofList (t.read m words.toList).1) :: qs, ?_, ?_, hindices⟩
      · simp only [Piece.raw, Piece.join, String.toList_append, run_append,
          String.toList_ofList] at hrun ⊢
        rw [hrun]
      · exact ⟨by simpa using hout, hqs⟩
    | marker i =>
      have hhome : Ordinary (t.held t.home) := by rw [t.held_home]; exact ordinary_nil
      obtain ⟨qs, hrun, hqs, hindices⟩ := ih hhome plain
      refine ⟨.text (String.ofList (t.held m)) :: .marker i :: qs, ?_, ?_, ?_⟩
      · simp only [Piece.raw, Piece.join, String.toList_append, run_append, read_marker,
          String.toList_ofList, List.append_assoc] at hrun ⊢
        rw [hrun]
      · exact ⟨by simpa using hm, hqs⟩
      · simp only [Piece.indices, hindices]

end Scanner

end PageFilters
