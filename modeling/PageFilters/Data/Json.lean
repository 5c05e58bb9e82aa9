import PageFilters.Data.Basic
import PageFilters.Text.Digits

namespace PageFilters.Json

open Text (hexValue? negateIf ofDecimal)

def isSpace (c : Char) : Bool := c == ' ' || c == '\t' || c == '\n' || c == '\r'

def skipSpace (cs : List Char) : List Char := cs.dropWhile isSpace

/-- Four hexadecimal digits. -/
def hex4? : List Char → Option (Nat × List Char)
  | a :: b :: c :: d :: cs => do
    let a ← hexValue? a
    let b ← hexValue? b
    let c ← hexValue? c
    let d ← hexValue? d
    return (((a * 16 + b) * 16 + c) * 16 + d, cs)
  | _ => none

/-- A character written as one escape of four digits or as a pair of two for the code points that
need it. -/
def unicode? (cs : List Char) : Option (Char × List Char) := do
  let (n, cs) ← hex4? cs
  if 0xd800 ≤ n && n < 0xdc00 then
    match cs with
    | '\\' :: 'u' :: cs => do
      let (m, cs) ← hex4? cs
      if 0xdc00 ≤ m && m < 0xe000 then
        return (Char.ofNat (0x10000 + (n - 0xd800) * 0x400 + (m - 0xdc00)), cs)
      else none
    | _ => none
  else if 0xdc00 ≤ n && n < 0xe000 then none
  else return (Char.ofNat n, cs)

def simpleEscape? (c : Char) : Option Char :=
  if c = '"' || c = '\\' || c = '/' then some c
  else if c = 'b' then some '\x08'
  else if c = 'f' then some '\x0c'
  else if c = 'n' then some '\n'
  else if c = 'r' then some '\r'
  else if c = 't' then some '\t'
  else none

/-- The rest of a text after its opening quote; `acc` holds what came before, reversed. -/
def textRest (fuel : Nat) (acc : List Char) (cs : List Char) : Option (String × List Char) :=
  match fuel, cs with
  | fuel + 1, '\\' :: 'u' :: cs => do
    let (c, cs) ← unicode? cs
    textRest fuel (c :: acc) cs
  | fuel + 1, '\\' :: c :: cs => do
    let c ← simpleEscape? c
    textRest fuel (c :: acc) cs
  | fuel + 1, c :: cs =>
    if c = '"' then some (String.ofList acc.reverse, cs)
    else if c.toNat < 0x20 then none
    else textRest fuel (c :: acc) cs
  | _, _ => none

/-- Digits of a number's whole part: a single zero, or digits that do not start with one. -/
def whole? (cs : List Char) : Option (List Char × List Char) :=
  match cs.takeWhile Char.isDigit with
  | [] => none
  | ['0'] => some (['0'], cs.drop 1)
  | '0' :: _ => none
  | ds => some (ds, cs.drop ds.length)

/-- Digits after the point, if there is one. -/
def fraction? : List Char → Option (List Char × List Char)
  | '.' :: cs =>
    match cs.takeWhile Char.isDigit with
    | [] => none
    | ds => some (ds, cs.drop ds.length)
  | cs => some ([], cs)

def exponentDigits? (negative : Bool) (cs : List Char) : Option (Int × List Char) :=
  match cs.takeWhile Char.isDigit with
  | [] => none
  | ds =>
    let n : Int := ofDecimal ds
    some (if negative then -n else n, cs.drop ds.length)

/-- A power of ten after a number, if there is one. -/
def exponent? : List Char → Option (Option Int × List Char)
  | [] => some (none, [])
  | c :: cs =>
    if c = 'e' || c = 'E' then
      (match cs with
        | '+' :: cs => exponentDigits? false cs
        | '-' :: cs => exponentDigits? true cs
        | cs => exponentDigits? false cs).map fun (n, cs) => (some n, cs)
    else some (none, c :: cs)

/-- The number that digits write behind those of `n`, up to the last one with which it fits 64 bits,
and the digits after that. -/
def significant (n : Nat) : List Char → Nat × List Char
  | [] => (n, [])
  | d :: ds =>
    let m := n * 10 + (d.toNat - 48)
    if m < Nat.pow 2 64 then significant m ds else (n, d :: ds)

/-- The largest power of ten that is a float. -/
def maxExponent : Nat := 308

def tenTo (k : Nat) : Float := Float.ofScientific 1 false k

/-- A float times a power of ten, unless that is infinite. One rounding follows another, so the
result may be a neighbour of the nearest float. -/
def scaled? (x : Float) (exponent : Int) : Option Float :=
  if exponent.natAbs ≤ maxExponent then
    if exponent < 0 then some (x / tenTo exponent.natAbs)
    else
      let y := x * tenTo exponent.natAbs
      if y.isInf then none else some y
  else if x == 0 then some x
  else if 0 ≤ exponent then none
  else scaled? (x / tenTo maxExponent) (exponent + maxExponent)
termination_by exponent.natAbs
decreasing_by
  simp only [maxExponent] at *
  omega

/-- The exponent beyond which a number is taken for infinite, or for zero. -/
def exponentLimit : Int := Int.pow 2 31 - 1

/-- The float of a number's digits. Of those that do not fit 64 bits only the number of digits
before the point counts. -/
def float? (whole fraction : List Char) (exponent : Int) : Option Float :=
  let (n, dropped) := significant 0 whole
  let (n, rest) := significant n fraction
  if exponentLimit < exponent.natAbs then
    if n = 0 || exponent < 0 then some 0.0 else none
  else scaled? n.toUInt64.toFloat (dropped.length - (fraction.length - rest.length) + exponent)

/-- Whole numbers stay exact where 64 bits hold them. A negative zero is a float. -/
def number? (negative : Bool) (cs : List Char) : Option (Data × List Char) := do
  let (whole, cs) ← whole? cs
  let (fraction, cs) ← fraction? cs
  let (exponent, cs) ← exponent? cs
  let n := negateIf negative (ofDecimal whole)
  if fraction.isEmpty && exponent.isNone && -Int.pow 2 63 ≤ n && n < Int.pow 2 64 &&
      !(negative && n == 0) then
    return (.integer n, cs)
  else
    let x ← float? whole fraction (exponent.getD 0)
    return (.float (if negative then -x else x), cs)

/-- How deep arrays and objects may be nested. -/
def maxDepth : Nat := 127

mutual

/-- A value at the start of the text, and what follows it. It may be nested `depth` times. -/
def value? (fuel depth : Nat) (cs : List Char) : Option (Data × List Char) :=
  match fuel, depth, skipSpace cs with
  | fuel + 1, _, '"' :: cs => do
    let (text, cs) ← textRest fuel [] cs
    return (.text text, cs)
  | fuel + 1, depth + 1, '[' :: cs =>
    match skipSpace cs with
    | ']' :: cs => some (.array [], cs)
    | cs => do
      let (items, cs) ← items? fuel depth cs
      return (.array items, cs)
  | fuel + 1, depth + 1, '\x7b' :: cs =>
    match skipSpace cs with
    | '\x7d' :: cs => some (.table [], cs)
    | cs => do
      let (fields, cs) ← fields? fuel depth cs
      return (.ofFields fields, cs)
  | _, _, 't' :: 'r' :: 'u' :: 'e' :: cs => some (.boolean true, cs)
  | _, _, 'f' :: 'a' :: 'l' :: 's' :: 'e' :: cs => some (.boolean false, cs)
  | _, _, 'n' :: 'u' :: 'l' :: 'l' :: cs => some (.null, cs)
  | _, _, '-' :: cs => number? true cs
  | _, _, cs => number? false cs

/-- Items of an array up to its closing bracket. -/
def items? (fuel depth : Nat) (cs : List Char) : Option (List Data × List Char) :=
  match fuel with
  | 0 => none
  | fuel + 1 => do
    let (item, cs) ← value? fuel depth cs
    match skipSpace cs with
    | ',' :: cs => do
      let (items, cs) ← items? fuel depth cs
      return (item :: items, cs)
    | ']' :: cs => return ([item], cs)
    | _ => none

/-- Fields of an object up to its closing brace. -/
def fields? (fuel depth : Nat) (cs : List Char) : Option (List (String × Data) × List Char) :=
  match fuel, skipSpace cs with
  | fuel + 1, '"' :: cs => do
    let (key, cs) ← textRest fuel [] cs
    match skipSpace cs with
    | ':' :: cs => do
      let (item, cs) ← value? fuel depth cs
      match skipSpace cs with
      | ',' :: cs => do
        let (fields, cs) ← fields? fuel depth cs
        return ((key, item) :: fields, cs)
      | '\x7d' :: cs => return ([(key, item)], cs)
      | _ => none
    | _ => none
  | _, _ => none

end

/-- How a character is written inside a JSON text. -/
def escaped (c : Char) : List Char :=
  if c = '"' then ['\\', '"']
  else if c = '\\' then ['\\', '\\']
  else if c = '\n' then ['\\', 'n']
  else if c = '\r' then ['\\', 'r']
  else if c = '\t' then ['\\', 't']
  else if c = '\x08' then ['\\', 'b']
  else if c = '\x0c' then ['\\', 'f']
  else if c.toNat < 0x20 then
    "\\u00".toList ++ [Nat.digitChar (c.toNat / 16), Nat.digitChar (c.toNat % 16)]
  else [c]

def quoted (s : String) : String := String.ofList ('"' :: s.toList.flatMap escaped ++ ['"'])

/-- Reads a JSON text. If fields of one object share a name, the last one counts. -/
def read (s : String) : Option Data := do
  let (value, cs) ← value? (2 * s.length + 2) maxDepth s.toList
  if (skipSpace cs).isEmpty then return value else none

end PageFilters.Json
