import PageFilters.Data.Place
import PageFilters.Text.Digits

namespace PageFilters.Settings

open Data (Step)

/-- Characters of the names that a key is made of. -/
def isNameChar (c : Char) : Bool := c.isAlphanum || c == '_' || c == '-'

/-- A name at the start of a key, and the rest of it. -/
def name? (cs : List Char) : Option (String × List Char) :=
  let name := cs.takeWhile isNameChar
  if name.isEmpty then none else some (String.ofList name, cs.drop name.length)

def skipBlanks (cs : List Char) : List Char := cs.dropWhile fun c => c == ' ' || c == '\t'

/-- A whole number with a minus sign or none. It fits 64 bits. -/
def index? (cs : List Char) : Option (Int × List Char) :=
  let (negative, cs) := match cs with
    | '-' :: cs => (true, cs)
    | cs => (false, cs)
  let ds := cs.takeWhile Char.isDigit
  let n := Text.negateIf negative (Text.ofDecimal ds)
  if ds.isEmpty || !Text.fits64 n then none else some (n, cs.drop ds.length)

/-- What follows the first name of a key: names after dots and positions in brackets. -/
def laterSteps? : Nat → List Char → Option (List Step)
  | _, [] => some []
  | fuel + 1, '.' :: cs => do
    let (name, cs) ← name? cs
    let steps ← laterSteps? fuel cs
    return .field name :: steps
  | fuel + 1, '[' :: cs => do
    let (index, cs) ← index? (skipBlanks cs)
    let ']' :: cs := skipBlanks cs | none
    let steps ← laterSteps? fuel cs
    return .item index :: steps
  | _, _ => none

/-- Where a key leads. One that is not made of names, dots and positions is a name as a whole. -/
def steps (key : String) : List Step :=
  let steps? : Option (List Step) := do
    let (name, cs) ← name? key.toList
    let steps ← laterSteps? cs.length cs
    return .field name :: steps
  steps?.getD [.field key]

end PageFilters.Settings
