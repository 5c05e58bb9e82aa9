import PageFilters.Text.Space

namespace PageFilters.Text

/-- The parts of a list between the elements that satisfy `sep`; one more than there are of
these. -/
def segments {α : Type} (sep : α → Bool) : List α → List (List α)
  | [] => [[]]
  | a :: as =>
    if sep a then [] :: segments sep as
    else match segments sep as with
      | [] => [[a]]
      | part :: parts => (a :: part) :: parts

/-- The text cut after each line feed. Only the last piece may lack one, and no piece is empty. -/
def pieces : List Char → List (List Char)
  | [] => []
  | c :: cs =>
    if c = '\n' then [c] :: pieces cs
    else match pieces cs with
      | [] => [[c]]
      | p :: ps => (c :: p) :: ps

/-- A piece without its line ending, which is a line feed and a carriage return right before it. -/
def stripEnding (piece : List Char) : List Char :=
  match piece.reverse with
  | '\n' :: '\r' :: cs => cs.reverse
  | '\n' :: cs => cs.reverse
  | _ => piece

def lines (cs : List Char) : List (List Char) := (pieces cs).map stripEnding

/-- A piece that ends in a line feed and is white space up to there. -/
def isBlankLine (piece : List Char) : Bool := piece.getLast? == some '\n' && isBlank piece

def dropBlankLines (cs : List Char) : List Char :=
  ((pieces cs).filter fun piece => !isBlankLine piece).flatten

/-- The text without its blank lines. An unterminated last line stays, blank or not. -/
def noBlankLines (s : String) : String := String.ofList (dropBlankLines s.toList)

end PageFilters.Text
