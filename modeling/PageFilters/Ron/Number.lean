import PageFilters.Data.Basic
import PageFilters.Data.Decimal
import PageFilters.Ron.Text

namespace PageFilters.Ron

def isIntegerChar (c : Char) : Bool := (Text.hexValue? c).isSome || c == '_'

def isFloatChar (c : Char) : Bool :=
  c.isDigit || c == 'e' || c == 'E' || c == '.' || c == '+' || c == '-' || c == '_'

/-- The characters of a float at the start of the text. Two points belong to a range. -/
def floatPart : List Char → List Char
  | [] => []
  | '.' :: '.' :: _ => []
  | c :: cs => if isFloatChar c then c :: floatPart cs else []

/-- Kinds of whole numbers with the least and the greatest one. -/
def integerKinds : List (List Char × Int × Int) :=
  [("i8".toList, -Int.pow 2 7, Int.pow 2 7 - 1), ("i16".toList, -Int.pow 2 15, Int.pow 2 15 - 1),
    ("i32".toList, -Int.pow 2 31, Int.pow 2 31 - 1),
    ("i64".toList, -Int.pow 2 63, Int.pow 2 63 - 1),
    ("u8".toList, 0, Int.pow 2 8 - 1), ("u16".toList, 0, Int.pow 2 16 - 1),
    ("u32".toList, 0, Int.pow 2 32 - 1), ("u64".toList, 0, Int.pow 2 64 - 1)]

/-- The base that the start of a number names, and its digits. -/
def based : List Char → Nat × List Char
  | '0' :: 'x' :: cs => (16, cs)
  | '0' :: 'o' :: cs => (8, cs)
  | '0' :: 'b' :: cs => (2, cs)
  | cs => (10, cs)

/-- A whole number. One in base ten or two may name its kind. -/
def integer? (cs : List Char) : Option (Data × List Char) := do
  let (negative, cs) := Text.signed cs
  let (base, cs) := based cs
  let ds := cs.takeWhile isIntegerChar
  let digits ← (ds.filter (· != '_')).mapM (Text.digit? base)
  if ds.isEmpty || ds.head? == some '_' then none
  else
    let n := Text.negateIf negative (Text.ofDigits base digits)
    let cs := cs.drop ds.length
    match integerKinds.find? fun (kind, _) => (base = 10 || base = 2) && kind.isPrefixOf cs with
    | some (kind, least, greatest) =>
      if least ≤ n && n ≤ greatest then return (.integer n, cs.drop kind.length) else none
    | none => if -Int.pow 2 63 ≤ n && n < Int.pow 2 64 then return (.integer n, cs) else none

/-- The names of floats that have no digits. -/
def namedFloat? (negative : Bool) (name : List Char) : Option Float :=
  if [("inf".toList), ("inff32".toList), ("inff64".toList)].contains name then
    some (if negative then -Data.infinity else Data.infinity)
  else if [("NaN".toList), ("NaNf32".toList), ("NaNf64".toList)].contains name then some (0.0 / 0.0)
  else none

/-- Whether no underscore comes first, or first behind the point. -/
def underscoresFit (allowed : Bool) : List Char → Bool
  | [] => true
  | c :: cs =>
    if c = '_' then allowed && underscoresFit true cs
    else if c = '+' || c = '-' then underscoresFit allowed cs
    else underscoresFit (c != '.') cs

/-- A decimal number, which may name its kind. -/
def float? (cs : List Char) : Option (Data × List Char) := do
  let (negative, unsigned) := Text.signed cs
  let name := unsigned.takeWhile Text.isIdentifierContinue
  match namedFloat? negative name with
  | some x => return (.float x, unsigned.drop name.length)
  | none =>
    let part := floatPart cs
    let rest := cs.drop part.length
    if !underscoresFit false part then none
    else
      let x ← Data.decimal? (part.filter (· != '_'))
      match rest with
      | 'f' :: '3' :: '2' :: rest => return (.float x.toFloat32.toFloat, rest)
      | 'f' :: '6' :: '4' :: rest => return (.float x, rest)
      | rest => return (.float x, rest)

/-- A number. A whole one that 64 bits do not hold is a float. -/
def number? : List Char → Option (Data × List Char)
  | 'b' :: cs => (byteChar? ('b' :: cs)).map fun (n, cs) => (.integer n, cs)
  | cs =>
    let (_, unsigned) := Text.signed cs
    if (unsigned.takeWhile isIntegerChar).length < (floatPart unsigned).length then float? cs
    else integer? cs <|> float? cs

/-- The range with bounds that may be missing. One without any is null. -/
def rangeOf (first last : Option Data) : Data :=
  match first.toList.map (("start", ·)) ++ last.toList.map (("end", ·)) with
  | [] => .null
  | fields => .table fields

/-- A range after its two points. Behind an equals sign its end is required. -/
def rangeFrom? (first : Option Data) : List Char → Option (Data × List Char)
  | '=' :: cs => (number? cs).map fun (last, cs) => (rangeOf first (some last), cs)
  | cs =>
    match number? cs with
    | some (last, cs) => some (rangeOf first (some last), cs)
    | none => some (rangeOf first none, cs)

/-- A number, or a range from one number to another. -/
def numeral? : List Char → Option (Data × List Char)
  | '.' :: '.' :: cs => rangeFrom? none cs
  | cs => do
    let (x, cs) ← number? cs
    match cs with
    | '.' :: '.' :: cs => rangeFrom? (some x) cs
    | cs => return (x, cs)

end PageFilters.Ron
