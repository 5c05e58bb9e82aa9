import PageFilters.Text.Quoted

namespace PageFilters

/-- An argument of a filter call. -/
inductive Argument where
  | integer (value : Int)
  | text (value : String)
deriving DecidableEq, Repr

namespace Argument

def asInteger? : Argument → Option Int
  | integer value => some value
  | text _ => none

def asText? : Argument → Option String
  | integer _ => none
  | text value => some value

/-- Integers in decimal, texts in quotes. -/
def display : Argument → String
  | integer value => toString value
  | text value => Text.quoted value

/-- The integers an argument can hold. -/
def InRange (value : Int) : Prop := -Int.pow 2 63 ≤ value ∧ value < Int.pow 2 63

instance (value : Int) : Decidable (InRange value) :=
  inferInstanceAs (Decidable (_ ∧ _))

end Argument

end PageFilters
