import PageFilters.Data.Basic
import PageFilters.Data.Decimal
import PageFilters.Data.Json
import PageFilters.Text.Identifier
import PageFilters.Text.Space

namespace PageFilters.Json5

def isLineEnd (c : Char) : Bool := c == '\n' || c == '\r' || c == '\u2028' || c == '\u2029'

def isSpace (c : Char) : Bool := (Text.isSpace c && c != '\u0085') || c == '\ufeff'

/-- The text after the end of a comment between a slash with a star and a star with a slash. -/
def skipComment? : List Char → Option (List Char)
  | [] => none
  | '*' :: '/' :: cs => some cs
  | _ :: cs => skipComment? cs

/-- The text after white space and comments. -/
def skip? : Nat → List Char → Option (List Char)
  | 0, _ => none
  | _ + 1, [] => some []
  | fuel + 1, '/' :: '*' :: cs => do skip? fuel (← skipComment? cs)
  | fuel + 1, '/' :: '/' :: cs => skip? fuel (cs.dropWhile fun c => !isLineEnd c)
  | fuel + 1, c :: cs => if isSpace c then skip? fuel cs else some (c :: cs)

/-- The text after white space and comments. Nothing is left if a comment does not end. -/
def skip (cs : List Char) : List Char := (skip? (cs.length + 1) cs).getD []

/-- A character that two hexadecimal digits write. -/
def hex2? : List Char → Option (Char × List Char)
  | a :: b :: cs => do
    let a ← Text.hexValue? a
    let b ← Text.hexValue? b
    return (Char.ofNat (a * 16 + b), cs)
  | _ => none

def simpleEscape (c : Char) : Char :=
  if c = 'b' then '\x08'
  else if c = 'f' then '\x0c'
  else if c = 'n' then '\n'
  else if c = 'r' then '\r'
  else if c = 't' then '\t'
  else if c = 'v' then '\x0b'
  else if c = '0' then '\x00'
  else c

/-- The rest of a text after its opening quote. A backslash at the end of a line hides the line
ending. -/
def textRest? (quote : Char) : Nat → List Char → Option (List Char × List Char)
  | 0, _ => none
  | _ + 1, [] => none
  | fuel + 1, '\\' :: cs =>
    match cs with
    | 'u' :: cs => do
      let (c, cs) ← Json.unicode? cs
      let (text, cs) ← textRest? quote fuel cs
      return (c :: text, cs)
    | 'x' :: cs => do
      let (c, cs) ← hex2? cs
      let (text, cs) ← textRest? quote fuel cs
      return (c :: text, cs)
    | '\r' :: '\n' :: cs => textRest? quote fuel cs
    | c :: cs =>
      if isLineEnd c then textRest? quote fuel cs
      else if '1' ≤ c && c ≤ '9' then none
      else if c = '0' && cs.head?.any Char.isDigit then none
      else do
        let (text, cs) ← textRest? quote fuel cs
        return (simpleEscape c :: text, cs)
    | [] => none
  | fuel + 1, c :: cs =>
    if c = quote then some ([], cs)
    else if c = '\n' || c = '\r' then none
    else do
      let (text, cs) ← textRest? quote fuel cs
      return (c :: text, cs)

def isNameStart (c : Char) : Bool := Text.isLetter c || c == '_' || c == '$'

/-- Characters of a name without quotes. Two of them only join or separate those beside them. -/
def isNameChar (c : Char) : Bool :=
  isNameStart c || Text.isMark c || c == '\u200c' || c == '\u200d'

/-- A name without quotes, in which characters may be escaped by their code points. -/
def name? : Nat → List Char → Option (List Char × List Char)
  | 0, _ => none
  | fuel + 1, '\\' :: 'u' :: cs => do
    let (c, cs) ← Json.unicode? cs
    let (name, cs) ← name? fuel cs
    if isNameChar c then return (c :: name, cs) else none
  | _ + 1, [] => some ([], [])
  | fuel + 1, c :: cs =>
    if isNameChar c then do
      let (name, cs) ← name? fuel cs
      return (c :: name, cs)
    else some ([], c :: cs)

/-- The name of a field, quoted or not. -/
def key? (fuel : Nat) : List Char → Option (String × List Char)
  | '"' :: cs => (textRest? '"' fuel cs).map fun (key, cs) => (String.ofList key, cs)
  | '\'' :: cs => (textRest? '\'' fuel cs).map fun (key, cs) => (String.ofList key, cs)
  | cs => do
    let (name, rest) ← name? fuel cs
    if name.head?.any isNameStart then return (String.ofList name, rest) else none

/-- The characters of a decimal number at the start of the text. -/
def decimalPart (cs : List Char) : List Char :=
  let whole := cs.takeWhile Char.isDigit
  let rest := cs.drop whole.length
  let fraction := match rest with
    | '.' :: cs => '.' :: cs.takeWhile Char.isDigit
    | _ => []
  let rest := rest.drop fraction.length
  let exponent := match rest with
    | e :: cs =>
      if e = 'e' || e = 'E' then
        match cs with
        | '+' :: cs => e :: '+' :: cs.takeWhile Char.isDigit
        | '-' :: cs => e :: '-' :: cs.takeWhile Char.isDigit
        | cs => e :: cs.takeWhile Char.isDigit
      else []
    | [] => []
  whole ++ fraction ++ exponent

/-- A whole number, or the float nearest to it if 64 bits do not hold it. -/
def whole (negative : Bool) (n : Nat) : Data :=
  let i := Text.negateIf negative n
  if Text.fits64 i then .integer i
  else
    let x := (Data.ofDecimal? n 0).getD Data.infinity
    .float (if negative then -x else x)

/-- A decimal number, which starts with a zero only if no other digit follows before the point. One
without a point and an exponent is whole. -/
def decimal? (negative : Bool) (cs : List Char) : Option (Data × List Char) := do
  let part := decimalPart cs
  let x ← Data.decimal? part
  let data :=
    if part.all Char.isDigit then whole negative (Text.ofDecimal part)
    else .float (if negative then -x else x)
  match part with
  | '0' :: d :: _ => if d.isDigit then none else return (data, cs.drop part.length)
  | _ => return (data, cs.drop part.length)

def hexadecimal? (negative : Bool) (cs : List Char) : Option (Data × List Char) := do
  let ds := cs.takeWhile fun c => (Text.hexValue? c).isSome
  let digits ← ds.mapM Text.hexValue?
  if ds.isEmpty then none
  else return (whole negative (Text.ofDigits 16 digits), cs.drop ds.length)

/-- A number after its sign. -/
def number? (negative : Bool) : List Char → Option (Data × List Char)
  | '0' :: 'x' :: cs => hexadecimal? negative cs
  | '0' :: 'X' :: cs => hexadecimal? negative cs
  | 'I' :: 'n' :: 'f' :: 'i' :: 'n' :: 'i' :: 't' :: 'y' :: cs =>
    some (.float (if negative then -Data.infinity else Data.infinity), cs)
  | 'N' :: 'a' :: 'N' :: cs => some (.float (0.0 / 0.0), cs)
  | cs => decimal? negative cs

mutual

/-- A value at the start of the text, and what follows it. -/
def value? (fuel : Nat) (cs : List Char) : Option (Data × List Char) :=
  match fuel, cs with
  | 0, _ => none
  | fuel + 1, '"' :: cs =>
    (textRest? '"' fuel cs).map fun (text, cs) => (.text (String.ofList text), cs)
  | fuel + 1, '\'' :: cs =>
    (textRest? '\'' fuel cs).map fun (text, cs) => (.text (String.ofList text), cs)
  | fuel + 1, '[' :: cs => (items? fuel (skip cs)).map fun (items, cs) => (.array items, cs)
  | fuel + 1, '\x7b' :: cs =>
    (fields? fuel (skip cs)).map fun (fields, cs) => (.ofFields fields, cs)
  | _, 't' :: 'r' :: 'u' :: 'e' :: cs => some (.boolean true, cs)
  | _, 'f' :: 'a' :: 'l' :: 's' :: 'e' :: cs => some (.boolean false, cs)
  | _, 'n' :: 'u' :: 'l' :: 'l' :: cs => some (.null, cs)
  | _, '+' :: cs => number? false cs
  | _, '-' :: cs => number? true cs
  | _, cs => number? false cs

/-- Items of an array up to its closing bracket. A comma may stand behind the last one. -/
def items? (fuel : Nat) (cs : List Char) : Option (List Data × List Char) :=
  match fuel, cs with
  | 0, _ => none
  | _ + 1, ']' :: cs => some ([], cs)
  | fuel + 1, cs => do
    let (item, cs) ← value? fuel cs
    match skip cs with
    | ',' :: cs => do
      let (items, cs) ← items? fuel (skip cs)
      return (item :: items, cs)
    | ']' :: cs => return ([item], cs)
    | _ => none

/-- Fields of an object up to its closing brace. A comma may stand behind the last one. -/
def fields? (fuel : Nat) (cs : List Char) : Option (List (String × Data) × List Char) :=
  match fuel, cs with
  | 0, _ => none
  | _ + 1, '\x7d' :: cs => some ([], cs)
  | fuel + 1, cs => do
    let (key, cs) ← key? fuel cs
    let ':' :: cs := skip cs | none
    let (item, cs) ← value? fuel (skip cs)
    match skip cs with
    | ',' :: cs => do
      let (fields, cs) ← fields? fuel (skip cs)
      return ((key, item) :: fields, cs)
    | '\x7d' :: cs => return ([(key, item)], cs)
    | _ => none

end

/-- Reads a JSON5 text. -/
def read (s : String) : Option Data := do
  let fuel := 2 * s.length + 2
  let (value, cs) ← value? fuel (skip s.toList)
  let rest ← skip? fuel cs
  if rest.isEmpty then return value else none

end PageFilters.Json5
