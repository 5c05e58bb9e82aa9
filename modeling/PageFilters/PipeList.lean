import PageFilters.Error
import PageFilters.Text.Lines

namespace PageFilters.PipeList

def isNameStart (c : Char) : Bool := c.isAlpha || c == '_'

def isNameChar (c : Char) : Bool := c.isAlphanum || c == '_'

/-- Letters, digits and underscores of ASCII, the first not a digit. -/
def isName : List Char → Bool
  | [] => false
  | c :: cs => isNameStart c && cs.all isNameChar

/-- Characters that would begin an argument. -/
def startsArgument (c : Char) : Bool := c == '(' || Text.isSpace c

/-- A single entry of a pipe list; `list` is the whole list without outer white space. -/
def checkName (list : String) (piece : List Char) : Except FilterError String :=
  if piece.any startsArgument then
    .error (.invalidArgument (String.ofList (piece.takeWhile fun c => !startsArgument c))
      s!"pipe filter list `{list}` does not accept arguments")
  else if isName piece then .ok (String.ofList piece)
  else .error (.unknown (String.ofList piece) list)

/-- The filter names of a comma separated list, which has none if it is blank. -/
def parse (list : String) : Except FilterError (List String) :=
  if Text.isBlank list.toList then .ok []
  else ((Text.segments (· == ',') list.toList).map Text.trimChars).mapM (checkName (Text.trim list))

end PageFilters.PipeList
