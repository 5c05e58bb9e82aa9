import PageFilters.Text.Percent

namespace PageFilters.Text

/-- A character that stands for itself in an encoded text. -/
def Unreserved (c : Char) : Prop :=
  ('A' ≤ c ∧ c ≤ 'Z') ∨ ('a' ≤ c ∧ c ≤ 'z') ∨ ('0' ≤ c ∧ c ≤ '9') ∨ c ∈ ['*', '-', '.', '_']

instance (c : Char) : Decidable (Unreserved c) := inferInstanceAs (Decidable (_ ∨ _))

def UpperHex (c : Char) : Prop := ('0' ≤ c ∧ c ≤ '9') ∨ ('A' ≤ c ∧ c ≤ 'F')

instance (c : Char) : Decidable (UpperHex c) := inferInstanceAs (Decidable (_ ∨ _))

/-- Two digits write a byte. -/
structure HexPair (high low : Char) (b : UInt8) : Prop where
  upperHigh : UpperHex high
  upperLow : UpperHex low
  valueHigh : hexValue? high = some (b.toNat / 16)
  valueLow : hexValue? low = some (b.toNat % 16)

/-- Texts of unreserved characters and of triples that begin with a percent sign. -/
inductive Encoded : List Char → Prop
  | nil : Encoded []
  | plain {c : Char} {cs : List Char} (hc : Unreserved c) (h : Encoded cs) : Encoded (c :: cs)
  | triple {high low : Char} {cs : List Char} (hhigh : UpperHex high) (hlow : UpperHex low)
      (h : Encoded cs) : Encoded ('%' :: high :: low :: cs)

/-- The bytes that a text with percent signs writes. A percent sign without two digits behind it
stands for itself, as any other character does. -/
def percentDecode : List Char → List UInt8
  | [] => []
  | '%' :: high :: low :: cs =>
    match hexValue? high, hexValue? low with
    | some h, some l => UInt8.ofNat (16 * h + l) :: percentDecode cs
    | _, _ => String.utf8EncodeChar '%' ++ percentDecode (high :: low :: cs)
  | c :: cs => String.utf8EncodeChar c ++ percentDecode cs

/-- How forms are written byte by byte: with a plus sign for each space. -/
structure FormSerializer (serialize : List UInt8 → List Char) : Prop where
  nil : serialize [] = []
  plain : ∀ b bs, Unreserved (Char.ofNat b.toNat) →
    serialize (b :: bs) = Char.ofNat b.toNat :: serialize bs
  space : ∀ bs, serialize (32 :: bs) = '+' :: serialize bs
  other : ∀ b bs, ¬ Unreserved (Char.ofNat b.toNat) → b ≠ 32 →
    ∃ high low, HexPair high low b ∧ serialize (b :: bs) = '%' :: high :: low :: serialize bs

/-- The text with `%20` for each plus sign. -/
def replacePlus (cs : List Char) : List Char :=
  cs.flatMap fun c => if c = '+' then ['%', '2', '0'] else [c]

theorem byte_cases {P : UInt8 → Prop} (h : ∀ n < 256, P (UInt8.ofNat n)) (b : UInt8) : P b := by
  have hb := h b.toNat b.toNat_lt
  rwa [UInt8.ofNat_toNat] at hb

theorem isPlainByte_iff (b : UInt8) : isPlainByte b = true ↔ Unreserved (Char.ofNat b.toNat) := by
  revert b
  refine byte_cases ?_
  decide +kernel

theorem plainByte_char (b : UInt8) : isPlainByte b = true →
    String.utf8EncodeChar (Char.ofNat b.toNat) = [b] ∧ Char.ofNat b.toNat ≠ '%' ∧
      Char.ofNat b.toNat ≠ '+' := by
  revert b
  refine byte_cases ?_
  decide +kernel

section Digits

theorem UpperHex.toNat_lt {c : Char} (h : UpperHex c) : c.toNat < 128 := by
  simp only [UpperHex, Char.le_def, UInt32.le_iff_toNat_le] at h
  change (48 ≤ c.toNat ∧ c.toNat ≤ 57) ∨ (65 ≤ c.toNat ∧ c.toNat ≤ 70) at h
  omega

theorem UpperHex.digit {c : Char} (h : UpperHex c) :
    c ≠ '+' ∧ ∀ v, hexValue? c = some v → c = hexDigit v := by
  have hall : ∀ n < 128, UpperHex (Char.ofNat n) → Char.ofNat n ≠ '+' ∧
      ∀ v ∈ hexValue? (Char.ofNat n), Char.ofNat n = hexDigit v := by decide +kernel
  have hc := hall c.toNat h.toNat_lt
  rw [Char.ofNat_toNat] at hc
  exact hc h

theorem hexDigit_upper {d : Nat} (h : d < 16) :
    UpperHex (hexDigit d) ∧ hexValue? (hexDigit d) = some d := by
  revert d
  decide

theorem hexPair_digits (b : UInt8) :
    HexPair (hexDigit (b.toNat / 16)) (hexDigit (b.toNat % 16)) b := by
  have hb := b.toNat_lt
  have hhigh := hexDigit_upper (d := b.toNat / 16) (by omega)
  have hlow := hexDigit_upper (d := b.toNat % 16) (by omega)
  exact ⟨hhigh.1, hlow.1, hhigh.2, hlow.2⟩

/-- A byte is written in one way only. -/
theorem HexPair.unique {high low : Char} {b : UInt8} (h : HexPair high low b) :
    high = hexDigit (b.toNat / 16) ∧ low = hexDigit (b.toNat % 16) :=
  ⟨h.upperHigh.digit.2 _ h.valueHigh, h.upperLow.digit.2 _ h.valueLow⟩

end Digits

section Bytes

theorem percentByte_of_plain {b : UInt8} (h : isPlainByte b = true) :
    percentByte b = [Char.ofNat b.toNat] := if_pos h

theorem percentByte_of_reserved {b : UInt8} (h : isPlainByte b = false) :
    percentByte b = ['%', hexDigit (b.toNat / 16), hexDigit (b.toNat % 16)] :=
  if_neg (by simp [h])

theorem encoded_percentByte (b : UInt8) {cs : List Char} (h : Encoded cs) :
    Encoded (percentByte b ++ cs) := by
  cases hb : isPlainByte b with
  | true =>
    rw [percentByte_of_plain hb]
    exact .plain ((isPlainByte_iff b).mp hb) h
  | false =>
    rw [percentByte_of_reserved hb]
    exact .triple (hexPair_digits b).upperHigh (hexPair_digits b).upperLow h

theorem encoded_bytes (bs : List UInt8) : Encoded (bs.flatMap percentByte) := by
  induction bs with
  | nil => exact .nil
  | cons b bs ih => exact encoded_percentByte b ih

theorem percentDecode_cons {c : Char} (hc : c ≠ '%') (cs : List Char) :
    percentDecode (c :: cs) = String.utf8EncodeChar c ++ percentDecode cs := by
  rw [percentDecode]
  rintro _ _ _ rfl
  exact absurd rfl hc

theorem percentDecode_pair {high low : Char} {b : UInt8} (h : HexPair high low b)
    (cs : List Char) : percentDecode ('%' :: high :: low :: cs) = b :: percentDecode cs := by
  rw [percentDecode, h.valueHigh, h.valueLow]
  simp only [Nat.div_add_mod, UInt8.ofNat_toNat]

theorem percentDecode_bytes (bs : List UInt8) : percentDecode (bs.flatMap percentByte) = bs := by
  induction bs with
  | nil => rfl
  | cons b bs ih =>
    rw [List.flatMap_cons]
    cases hb : isPlainByte b with
    | true =>
      obtain ⟨hbytes, hpercent, _⟩ := plainByte_char b hb
      rw [percentByte_of_plain hb, List.singleton_append, percentDecode_cons hpercent, hbytes, ih]
      rfl
    | false =>
      rw [percentByte_of_reserved hb]
      exact (percentDecode_pair (hexPair_digits b) _).trans (congrArg (b :: ·) ih)

theorem replacePlus_cons {c : Char} (hc : c ≠ '+') (cs : List Char) :
    replacePlus (c :: cs) = c :: replacePlus cs := by
  rw [replacePlus, List.flatMap_cons, if_neg hc]
  rfl

/-- Plus signs stand for spaces only, so that no other byte is touched when they are replaced. -/
theorem FormSerializer.replacePlus_eq {serialize : List UInt8 → List Char}
    (form : FormSerializer serialize) (bs : List UInt8) :
    replacePlus (serialize bs) = bs.flatMap percentByte := by
  induction bs with
  | nil => rw [form.nil]; rfl
  | cons b bs ih =>
    rw [List.flatMap_cons, ← ih]
    cases hb : isPlainByte b with
    | true =>
      rw [form.plain b bs ((isPlainByte_iff b).mp hb), percentByte_of_plain hb,
        replacePlus_cons (plainByte_char b hb).2.2]
      rfl
    | false =>
      by_cases hspace : b = 32
      · subst hspace
        rw [form.space]
        rfl
      · have hreserved : ¬ Unreserved (Char.ofNat b.toNat) := by
          rw [← isPlainByte_iff, hb]
          decide
        obtain ⟨high, low, hpair, hbytes⟩ := form.other b bs hreserved hspace
        rw [hbytes, percentByte_of_reserved hb, replacePlus_cons (by decide),
          replacePlus_cons hpair.upperHigh.digit.1, replacePlus_cons hpair.upperLow.digit.1,
          ← hpair.unique.1, ← hpair.unique.2]
        rfl

end Bytes

theorem utf8Bytes_toByteArray (s : String) :
    (utf8Bytes s.toList).toByteArray = s.toByteArray := by
  rw [← String.utf8Encode_toList]
  rfl

theorem utf8Bytes_toList (s : String) : s.toUTF8.data.toList = utf8Bytes s.toList := by
  change s.toByteArray.data.toList = _
  rw [← utf8Bytes_toByteArray, List.data_toByteArray]

/-- Percent encoding is faithful: it is what a serializer of forms writes, with `%20` for each plus
sign, and reads back as the bytes of the text, whatever the text. -/
theorem uriEscape_faithful {serialize : List UInt8 → List Char} (form : FormSerializer serialize)
    (s : String) :
    uriEscape s = String.ofList (replacePlus (serialize s.toUTF8.data.toList)) ∧
    Encoded (uriEscape s).toList ∧
    (percentDecode (uriEscape s).toList).toByteArray = s.toUTF8 ∧
    (∀ t, uriEscape t = uriEscape s → t = s) ∧
    ∀ t, uriEscape (s ++ t) = uriEscape s ++ uriEscape t := by
  have hdecode : ∀ t, (percentDecode (uriEscape t).toList).toByteArray = t.toByteArray := by
    intro t
    rw [uriEscape, String.toList_ofList, percentChars, percentDecode_bytes, utf8Bytes_toByteArray]
  refine ⟨?_, ?_, hdecode s, fun t ht => ?_, fun t => ?_⟩
  · rw [form.replacePlus_eq, utf8Bytes_toList]
    rfl
  · rw [uriEscape, String.toList_ofList]
    exact encoded_bytes _
  · refine String.toByteArray_inj.mp ?_
    rw [← hdecode, ht, hdecode]
  · simp [uriEscape, percentChars, utf8Bytes]

/-- A serializer of forms. -/
def formChars (bs : List UInt8) : List Char :=
  bs.flatMap fun b => if b = 32 then ['+'] else percentByte b

theorem formSerializer_formChars : FormSerializer formChars where
  nil := rfl
  plain b bs h := by
    have hb := (isPlainByte_iff b).mpr h
    have hspace : b ≠ 32 := by
      rintro rfl
      cases hb
    rw [formChars, List.flatMap_cons, if_neg hspace, percentByte_of_plain hb]
    rfl
  space bs := rfl
  other b bs h hspace := by
    have hb : isPlainByte b = false := by rwa [← isPlainByte_iff, Bool.not_eq_true] at h
    refine ⟨_, _, hexPair_digits b, ?_⟩
    rw [formChars, List.flatMap_cons, if_neg hspace, percentByte_of_reserved hb]
    rfl

/-- A space, a plus sign and what looks like an encoded space. -/
theorem uriEscape_faithful_spaces :
    uriEscape "é +%20" = "%C3%A9%20%2B%2520" ∧
      (percentDecode "%C3%A9%20%2B%2520".toList).toByteArray = "é +%20".toUTF8 := by
  have hfaithful := uriEscape_faithful formSerializer_formChars "é +%20"
  have hescape : uriEscape "é +%20" = "%C3%A9%20%2B%2520" :=
    hfaithful.1.trans (by decide +kernel)
  exact ⟨hescape, hescape ▸ hfaithful.2.2.1⟩

end PageFilters.Text
