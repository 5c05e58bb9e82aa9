import PageFilters.Data.Basic
import PageFilters.Data.Decimal
import PageFilters.Text.Digits

namespace PageFilters.Toml

open Text (digit? fits64 negateIf ofDigits signed)

/-- All of the text as digits. An underscore may stand between two of them. -/
def digits? (base : Nat) : List Char → Option (List Nat)
  | [] => none
  | [c] => (digit? base c).map ([·])
  | c :: '_' :: cs => do
    let d ← digit? base c
    let ds ← digits? base cs
    return d :: ds
  | c :: cs => do
    let d ← digit? base c
    let ds ← digits? base cs
    return d :: ds

/-- Decimal digits of a whole number, with a leading zero only if there is no other digit. -/
def wholeDigits? (cs : List Char) : Option (List Nat) := do
  let ds ← digits? 10 cs
  if ds.length > 1 && ds.head? == some 0 then none else return ds

/-- Whole numbers are decimal, or in base 16, 8 or 2 without a sign. -/
def integer? : List Char → Option Int
  | '0' :: 'x' :: cs => (digits? 16 cs).map fun ds => (ofDigits 16 ds : Int)
  | '0' :: 'o' :: cs => (digits? 8 cs).map fun ds => (ofDigits 8 ds : Int)
  | '0' :: 'b' :: cs => (digits? 2 cs).map fun ds => (ofDigits 2 ds : Int)
  | cs =>
    let (negative, cs) := signed cs
    (wholeDigits? cs).map fun ds => negateIf negative (ofDigits 10 ds)

def isExponentMark (c : Char) : Bool := c == 'e' || c == 'E'

/-- The exponent after its mark, or zero if there is none. -/
def exponent? : List Char → Option Int
  | [] => some 0
  | _ :: cs => do
    let (negative, cs) := signed cs
    let ds ← digits? 10 cs
    return negateIf negative (ofDigits 10 ds)

/-- The digits behind the point, if there is a point. -/
def fraction? : List Char → Option (List Nat)
  | [] => some []
  | _ :: cs => digits? 10 cs

/-- The digits and the power of ten of a number with a point or an exponent. -/
def decimal? (cs : List Char) : Option (Nat × Int) := do
  let mantissa := cs.takeWhile fun c => !isExponentMark c
  let whole := mantissa.takeWhile (· != '.')
  if cs.length = whole.length then none
  else do
    let ws ← wholeDigits? whole
    let fs ← fraction? (mantissa.drop whole.length)
    let e ← exponent? (cs.drop mantissa.length)
    return (ofDigits 10 (ws ++ fs), e - fs.length)

/-- A number with a point or an exponent, or one of the names of an infinite or undefined one.
There may be no float near the number. -/
def float? (cs : List Char) : Option (Option Float) := do
  let (negative, cs) := signed cs
  let x ←
    if cs = "inf".toList then some (some (1.0 / 0.0))
    else if cs = "nan".toList then some (some (0.0 / 0.0))
    else (decimal? cs).map fun (digits, exponent) => Data.ofDecimal? digits exponent
  return x.map fun x => if negative then -x else x

/-- Exactly `n` decimal digits at the start of the text. -/
def fixed? (n : Nat) (cs : List Char) : Option (Nat × List Char) := do
  let ds ← (cs.take n).mapM (digit? 10)
  if ds.length = n then return (ofDigits 10 ds, cs.drop n) else none

def isLeapYear (year : Nat) : Bool :=
  year % 4 == 0 && (year % 100 != 0 || year % 400 == 0)

def daysIn (year month : Nat) : Nat :=
  if month = 2 then if isLeapYear year then 29 else 28
  else if month = 4 || month = 6 || month = 9 || month = 11 then 30
  else 31

def mark? (p : Char → Bool) : List Char → Option (List Char)
  | [] => none
  | c :: cs => if p c then some cs else none

/-- The rest of the text after a day of the calendar. -/
def date? (cs : List Char) : Option (List Char) := do
  let (year, cs) ← fixed? 4 cs
  let cs ← mark? (· == '-') cs
  let (month, cs) ← fixed? 2 cs
  let cs ← mark? (· == '-') cs
  let (day, cs) ← fixed? 2 cs
  if 1 ≤ month && month ≤ 12 && 1 ≤ day && day ≤ daysIn year month then return cs else none

def hourMinute? (cs : List Char) : Option (List Char) := do
  let (hour, cs) ← fixed? 2 cs
  let cs ← mark? (· == ':') cs
  let (minute, cs) ← fixed? 2 cs
  if hour ≤ 23 && minute ≤ 59 then return cs else none

/-- The rest of the text after a time of day, which may lack its seconds. -/
def time? (cs : List Char) : Option (List Char) := do
  let cs ← hourMinute? cs
  match cs with
  | ':' :: cs => do
    let (second, cs) ← fixed? 2 cs
    if second ≤ 60 then
      match cs with
      | '.' :: cs =>
        let ds := cs.takeWhile Char.isDigit
        if ds.isEmpty then none else return cs.drop ds.length
      | cs => return cs
    else none
  | cs => return cs

/-- What may follow a date and a time: nothing, or the distance from universal time. -/
def isOffset : List Char → Bool
  | [] => true
  | ['Z'] => true
  | ['z'] => true
  | '+' :: cs => hourMinute? cs == some []
  | '-' :: cs => hourMinute? cs == some []
  | _ => false

def isMoment (cs : List Char) : Bool :=
  match date? cs with
  | some [] => true
  | some (c :: cs) =>
    (c == 'T' || c == 't' || c == ' ') && (time? cs).any isOffset
  | none => time? cs == some []

/-- A value without quotes and brackets. -/
def scalar? (cs : List Char) : Option Data :=
  if cs = "true".toList then some (.boolean true)
  else if cs = "false".toList then some (.boolean false)
  else
    match integer? cs, float? cs with
    | some n, _ =>
      some (if fits64 n then .integer n else .outOfRange (String.ofList cs))
    | none, some (some x) => some (.float x)
    | none, some none => some (.outOfRange (String.ofList cs))
    | none, none => if isMoment cs then some (.moment (String.ofList cs)) else none

end PageFilters.Toml
