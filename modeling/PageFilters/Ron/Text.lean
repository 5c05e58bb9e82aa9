import PageFilters.Text.Digits
import PageFilters.Text.Identifier
import PageFilters.Text.Lossy

namespace PageFilters.Ron

/-- The characters with the Unicode property `Pattern_White_Space`. -/
def isSpace (c : Char) : Bool :=
  ('\t' ≤ c && c ≤ '\r') || c == ' ' || c == '\u0085' || c == '\u200e' || c == '\u200f' ||
    c == '\u2028' || c == '\u2029'

/-- The text after a comment between a slash with a star and a star with a slash, in which `depth`
further ones are open. -/
def skipComment? : Nat → List Char → Option (List Char)
  | _, [] => none
  | depth, '/' :: '*' :: cs => skipComment? (depth + 1) cs
  | 0, '*' :: '/' :: cs => some cs
  | depth + 1, '*' :: '/' :: cs => skipComment? depth cs
  | depth, _ :: cs => skipComment? depth cs

/-- The text after white space and comments. A slash has to start a comment. -/
def skip? : Nat → List Char → Option (List Char)
  | 0, _ => none
  | _ + 1, [] => some []
  | fuel + 1, '/' :: '*' :: cs => do skip? fuel (← skipComment? 0 cs)
  | fuel + 1, '/' :: '/' :: cs => skip? fuel (cs.dropWhile (· != '\n'))
  | _ + 1, '/' :: _ => none
  | fuel + 1, c :: cs => if isSpace c then skip? fuel cs else some (c :: cs)

/-- The text after white space and comments. Nothing is left if a comment does not end. -/
def skip (cs : List Char) : List Char := (skip? (cs.length + 1) cs).getD []

def isNameStart (c : Char) : Bool := Text.isIdentifierStart c || c == '_'

/-- Characters of a name behind `r#`. -/
def isRawNameChar (c : Char) : Bool :=
  Text.isIdentifierContinue c || c == '.' || c == '+' || c == '-'

/-- A name at the start of the text. The starts of quoted texts are none. -/
def name? : List Char → Option (List Char × List Char)
  | 'b' :: '"' :: _ => none
  | 'b' :: '\'' :: _ => none
  | 'b' :: 'r' :: '"' :: _ => none
  | 'b' :: 'r' :: '#' :: _ => none
  | 'r' :: '"' :: _ => none
  | 'r' :: '#' :: cs =>
    let name := cs.takeWhile isRawNameChar
    if name.isEmpty then none else some (name, cs.drop name.length)
  | cs =>
    let name := cs.takeWhile Text.isIdentifierContinue
    if name.head?.any isNameStart then some (name, cs.drop name.length) else none

/-- Whether the name at the start of the text is marked as one, so that it has no other meaning. -/
def isRawName : List Char → Bool
  | 'r' :: '#' :: _ => true
  | _ => false

/-- A byte that two hexadecimal digits write. -/
def byte? : List Char → Option (Nat × List Char)
  | a :: b :: cs => do
    let a ← Text.hexValue? a
    let b ← Text.hexValue? b
    return (a * 16 + b, cs)
  | _ => none

/-- The character that the next escaped bytes complete. -/
def encoded? (further : Nat) (low high : UInt8) (bits : Nat) (cs : List Char) :
    Option (Char × List Char) :=
  match cs with
  | '\\' :: 'x' :: cs => do
    let (n, cs) ← byte? cs
    let b := n.toUInt8
    if low ≤ b && b ≤ high then
      let bits := bits * 0x40 + (n - 0x80)
      match further with
      | 0 => return (Char.ofNat bits, cs)
      | further + 1 => encoded? further 0x80 0xbf bits cs
    else none
  | _ => none

/-- One to six hexadecimal digits before a closing brace. -/
def codePoint? (cs : List Char) : Option (Char × List Char) := do
  let ds := cs.takeWhile (· != '\x7d')
  let c ← Text.charOf? (Text.ofDigits 16 (← ds.mapM (Text.digit? 16)))
  if ds.isEmpty || 6 < ds.length || cs.length = ds.length then none
  else return (c, cs.drop (ds.length + 1))

/-- The character that a letter or a mark behind a backslash stands for. -/
def simpleEscape? (c : Char) : Option Char :=
  if c = '\'' || c = '"' || c = '\\' then some c
  else if c = 'n' then some '\n'
  else if c = 'r' then some '\r'
  else if c = 't' then some '\t'
  else if c = '0' then some '\x00'
  else none

/-- The character that an escape stands for, given what follows its backslash. A byte beyond ASCII
starts a sequence of escaped bytes, which only texts may hold. -/
def escape? (inText : Bool) : List Char → Option (Char × List Char)
  | 'x' :: cs => do
    let (n, cs) ← byte? cs
    if n < 0x80 then return (Char.ofNat n, cs)
    else if inText then
      let s ← Text.Sequence.start? n.toUInt8
      encoded? s.further s.low s.high s.bits cs
    else none
  | 'u' :: '\x7b' :: cs => codePoint? cs
  | c :: cs => (simpleEscape? c).map fun c => (c, cs)
  | [] => none

/-- The text after a line ending, if it comes next. -/
def lineEnd? : List Char → Option (List Char)
  | '\n' :: cs => some cs
  | '\r' :: '\n' :: cs => some cs
  | _ => none

/-- The rest of a text after its opening quote. A backslash at the end of a line hides the line
ending and the white space after it. -/
def textRest? : Nat → List Char → Option (List Char × List Char)
  | 0, _ => none
  | _ + 1, [] => none
  | _ + 1, '"' :: cs => some ([], cs)
  | fuel + 1, '\\' :: cs =>
    match lineEnd? cs with
    | some cs => textRest? fuel (cs.dropWhile isSpace)
    | none => do
      let (c, cs) ← escape? true cs
      let (text, cs) ← textRest? fuel cs
      return (c :: text, cs)
  | fuel + 1, c :: cs => do
    let (text, cs) ← textRest? fuel cs
    return (c :: text, cs)

/-- The text up to a quote with as many hash signs behind it as in front. -/
def rawRest? (hashes : Nat) : List Char → Option (List Char × List Char)
  | [] => none
  | c :: cs =>
    if c = '"' && (List.replicate hashes '#').isPrefixOf cs then some ([], cs.drop hashes)
    else do
      let (text, cs) ← rawRest? hashes cs
      return (c :: text, cs)

/-- A text without escapes, given what follows its `r`. -/
def raw? (cs : List Char) : Option (List Char × List Char) :=
  let hashes := (cs.takeWhile (· == '#')).length
  match cs.drop hashes with
  | '"' :: cs => rawRest? hashes cs
  | _ => none

/-- A text in quotes, plain or raw. -/
def text? : List Char → Option (List Char × List Char)
  | '"' :: cs => textRest? (cs.length + 1) cs
  | 'r' :: cs => raw? cs
  | _ => none

/-- The bytes of a byte string after its opening quote. -/
def bytesRest? : Nat → List Char → Option (List UInt8 × List Char)
  | 0, _ => none
  | _ + 1, [] => none
  | _ + 1, '"' :: cs => some ([], cs)
  | fuel + 1, '\\' :: cs =>
    match lineEnd? cs with
    | some cs => bytesRest? fuel (cs.dropWhile isSpace)
    | none => do
      let (part, cs) ←
        match cs with
        | 'x' :: cs => (byte? cs).map fun (n, cs) => ([n.toUInt8], cs)
        | cs => (escape? true cs).map fun (c, cs) => (String.utf8EncodeChar c, cs)
      let (bytes, cs) ← bytesRest? fuel cs
      return (part ++ bytes, cs)
  | fuel + 1, c :: cs => do
    let (bytes, cs) ← bytesRest? fuel cs
    return (String.utf8EncodeChar c ++ bytes, cs)

/-- A byte string, plain or raw. -/
def bytes? : List Char → Option (List UInt8 × List Char)
  | 'b' :: '"' :: cs => bytesRest? (cs.length + 1) cs
  | 'b' :: 'r' :: cs => (raw? cs).map fun (text, cs) => (text.flatMap String.utf8EncodeChar, cs)
  | _ => none

/-- A character between apostrophes. -/
def char? : List Char → Option (Char × List Char)
  | '\'' :: cs => do
    let (c, cs) ←
      match cs with
      | '\\' :: cs => escape? false cs
      | c :: cs => some (c, cs)
      | [] => none
    match cs with
    | '\'' :: cs => return (c, cs)
    | _ => none
  | _ => none

/-- A byte between apostrophes: an ASCII character, or an escape other than that of a code point. -/
def byteChar? : List Char → Option (Nat × List Char)
  | 'b' :: '\'' :: cs => do
    let (n, cs) ←
      match cs with
      | '\\' :: 'x' :: cs => byte? cs
      | '\\' :: c :: cs => (simpleEscape? c).map fun c => (c.toNat, cs)
      | c :: cs => if c.toNat < 0x80 then some (c.toNat, cs) else none
      | [] => none
    match cs with
    | '\'' :: cs => return (n, cs)
    | _ => none
  | _ => none

end PageFilters.Ron
