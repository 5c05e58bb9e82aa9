import PageFilters.Text.Digits

namespace PageFilters.Text

/-- The bytes that stand for themselves: ASCII letters and digits and `*`, `-`, `.`, `_`. -/
def isPlainByte (b : UInt8) : Bool :=
  (48 ≤ b && b ≤ 57) || (65 ≤ b && b ≤ 90) || (97 ≤ b && b ≤ 122) ||
    b == 42 || b == 45 || b == 46 || b == 95

def percentByte (b : UInt8) : List Char :=
  if isPlainByte b then [Char.ofNat b.toNat]
  else ['%', hexDigit (b.toNat / 16), hexDigit (b.toNat % 16)]

def utf8Bytes (cs : List Char) : List UInt8 := cs.flatMap String.utf8EncodeChar

def percentChars (cs : List Char) : List Char := (utf8Bytes cs).flatMap percentByte

/-- The UTF-8 bytes of the text in percent encoding; a space is `%20` like any other such byte. -/
def uriEscape (s : String) : String := String.ofList (percentChars s.toList)

end PageFilters.Text
