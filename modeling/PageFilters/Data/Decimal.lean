import PageFilters.Text.Digits

namespace PageFilters.Data

/-- The exponents beyond which a decimal is taken for zero or for infinite. -/
def farExponent : Int := 100000

/-- The float nearest to `digits` times ten to the `exponent`, unless that is infinite. -/
def ofDecimal? (digits : Nat) (exponent : Int) : Option Float :=
  if digits = 0 || exponent < -farExponent then some 0.0
  else if farExponent < exponent then none
  else
    let x := Float.ofScientific digits (exponent < 0) exponent.natAbs
    if x.isInf then none else some x

def infinity : Float := 1.0 / 0.0

/-- The exponent that stands behind a mark, or zero if there is none. -/
def exponentAfter? : List Char → Option Int
  | [] => some 0
  | mark :: cs =>
    let (negative, ds) := Text.signed cs
    if (mark == 'e' || mark == 'E') && !ds.isEmpty && ds.all Char.isDigit then
      some (Text.negateIf negative (Text.ofDecimal ds))
    else none

/-- The float nearest to a decimal number, which may be infinite. There may be digits on one side of
the point only. -/
def decimal? (cs : List Char) : Option Float := do
  let (negative, cs) := Text.signed cs
  let whole := cs.takeWhile Char.isDigit
  let rest := cs.drop whole.length
  let (fraction, rest) := match rest with
    | '.' :: cs => (cs.takeWhile Char.isDigit, cs.dropWhile Char.isDigit)
    | cs => ([], cs)
  let exponent ← exponentAfter? rest
  if whole.isEmpty && fraction.isEmpty then none
  else
    let digits := Text.ofDecimal (whole ++ fraction)
    let x := (ofDecimal? digits (exponent - fraction.length)).getD infinity
    return if negative then -x else x

end PageFilters.Data
