namespace PageFilters.Text

/-- A UTF-8 sequence of which some bytes are still to come. -/
structure Sequence where
  /-- Bytes to come after the next one. -/
  further : Nat
  /-- The range of the next byte. -/
  low : UInt8
  high : UInt8
  /-- The bits so far. -/
  bits : Nat

/-- What a byte starts unless it is a character by itself: a sequence, or nothing. The second byte
of some sequences has a smaller range, which leaves out overlong forms and surrogates. -/
def Sequence.start? (b : UInt8) : Option Sequence :=
  let n := b.toNat
  if 0xc2 ≤ b && b ≤ 0xdf then some ⟨0, 0x80, 0xbf, n - 0xc0⟩
  else if b = 0xe0 then some ⟨1, 0xa0, 0xbf, 0⟩
  else if b = 0xed then some ⟨1, 0x80, 0x9f, n - 0xe0⟩
  else if 0xe1 ≤ b && b ≤ 0xef then some ⟨1, 0x80, 0xbf, n - 0xe0⟩
  else if b = 0xf0 then some ⟨2, 0x90, 0xbf, 0⟩
  else if b = 0xf4 then some ⟨2, 0x80, 0x8f, n - 0xf0⟩
  else if 0xf1 ≤ b && b ≤ 0xf3 then some ⟨2, 0x80, 0xbf, n - 0xf0⟩
  else none

/-- Stands for bytes that make no character. -/
def replacement : Char := '\ufffd'

/-- The characters of bytes inside of a sequence, or between two of them. Each longest part of a
sequence that breaks off becomes one replacement character, as does each byte that starts none. -/
def decodeFrom : Option Sequence → List UInt8 → List Char
  | none, [] => []
  | some _, [] => [replacement]
  | pending, b :: bs =>
    match pending.filter fun s => s.low ≤ b && b ≤ s.high with
    | some s =>
      let bits := s.bits * 0x40 + (b.toNat - 0x80)
      match s.further with
      | 0 => Char.ofNat bits :: decodeFrom none bs
      | n + 1 => decodeFrom (some ⟨n, 0x80, 0xbf, bits⟩) bs
    | none =>
      (if pending.isSome then [replacement] else []) ++
        if b < 0x80 then Char.ofNat b.toNat :: decodeFrom none bs
        else match Sequence.start? b with
          | some s => decodeFrom (some s) bs
          | none => replacement :: decodeFrom none bs

/-- The bytes without a byte order mark in front. -/
def dropByteOrderMark : List UInt8 → List UInt8
  | 0xef :: 0xbb :: 0xbf :: bs => bs
  | bs => bs

/-- The text that the bytes of a file hold, whatever they are. -/
def decode (bytes : ByteArray) : String :=
  String.ofList (decodeFrom none (dropByteOrderMark bytes.toList))

end PageFilters.Text
