namespace PageFilters.Yaml

def isBlank (c : Char) : Bool := c == ' ' || c == '\t'

def isBreak (c : Char) : Bool := c == '\n' || c == '\r'

/-- Characters that have a meaning of their own inside of brackets and braces. -/
def isFlow (c : Char) : Bool := c == ',' || c == '[' || c == ']' || c == '\x7b' || c == '\x7d'

/-- Letters, digits and the two marks that may stand in the names of directives and tags. -/
def isWordChar (c : Char) : Bool := c.isAlphanum || c == '_' || c == '-'

def startsFlow (cs : List Char) : Bool := cs.head?.any isFlow

/-- Whether the line ends here. -/
def endsLine (cs : List Char) : Bool := cs.head?.all isBreak

/-- Whether a blank or the end of the line comes next. -/
def endsWord (cs : List Char) : Bool := cs.head?.all fun c => isBlank c || isBreak c

/-- A position in a text. -/
structure Cursor where
  /-- What is left of the text. -/
  rest : List Char
  index : Nat
  line : Nat
  column : Nat
  /-- Whether nothing but blanks precedes on the line. -/
  indenting : Bool

namespace Cursor

def ofText (s : String) : Cursor := ⟨s.toList, 0, 0, 0, true⟩

/-- The position `n` characters further on the line. -/
def skip (n : Nat) (c : Cursor) : Cursor :=
  { c with rest := c.rest.drop n, index := c.index + n, column := c.column + n }

/-- The position behind `n` characters that are not blank. -/
def pass (n : Nat) (c : Cursor) : Cursor := { c.skip n with indenting := false }

/-- The start of the line after the line ending at this position. -/
def nextLine (c : Cursor) : Cursor :=
  let n := match c.rest with
    | '\r' :: '\n' :: _ => 2
    | _ => 1
  ⟨c.rest.drop n, c.index + n, c.line + 1, 0, true⟩

/-- Blanks that were passed over. -/
structure Blanks where
  tab : Bool
  space : Bool

/-- The position after blanks and a comment, which needs a blank in front of it. -/
def skipBlanks? (tabs : Bool) (c : Cursor) : Option (Cursor × Blanks) :=
  let blanks := c.rest.takeWhile fun x => x == ' ' || (tabs && x == '\t')
  let c := c.skip blanks.length
  let seen : Blanks := ⟨blanks.contains '\t', blanks.contains ' '⟩
  match c.rest with
  | '#' :: cs =>
    if blanks.isEmpty then none
    else some (c.skip (cs.takeWhile fun x => !isBreak x).length.succ, seen)
  | _ => some (c, seen)

/-- Whether three of these characters and a blank or a line ending start a line here. -/
def startsMarker (mark : Char) (c : Cursor) : Bool :=
  c.column == 0 && c.rest.take 3 == [mark, mark, mark] && endsWord (c.rest.drop 3)

def startsDocument (c : Cursor) : Bool := c.startsMarker '-'

def endsDocument (c : Cursor) : Bool := c.startsMarker '.'

end Cursor

end PageFilters.Yaml
