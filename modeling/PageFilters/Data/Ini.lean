import PageFilters.Data.Place
import PageFilters.Text.Digits
import PageFilters.Text.Space

namespace PageFilters.Ini

/-- A header, or a key with its value. -/
inductive Entry where
  | header (name : String)
  | assign (name value : String)

/-- The character that a backslash and the given one stand for. -/
def escape (c : Char) : Char :=
  if c = '0' then '\x00'
  else if c = 'a' then '\x07'
  else if c = 'b' then '\x08'
  else if c = 't' then '\t'
  else if c = 'r' then '\r'
  else if c = 'n' then '\n'
  else c

/-- The character with a code point that four digits write. A plus sign may replace the first. -/
def codePoint? (cs : List Char) : Option Char := do
  let ds := match cs with
    | '+' :: ds => ds
    | ds => ds
  Text.charOf? (Text.ofDigits 16 (← ds.mapM (Text.digit? 16)))

/-- The text up to a character that ends it, which stays. Only where `atEnd` is set it may also
reach to the end of the file. A backslash at the end of a line hides the line ending. -/
def textUntil? (stop : Char → Bool) (atEnd : Bool) : List Char → Option (List Char × List Char)
  | [] => if atEnd then some ([], []) else none
  | c :: cs =>
    if stop c then some ([], c :: cs)
    else if c = '\\' then
      match cs with
      | [] => if atEnd then some (['\\'], []) else none
      | '\n' :: cs => textUntil? stop atEnd cs
      | 'x' :: a :: b :: c :: d :: cs => do
        let x ← codePoint? [a, b, c, d]
        let (text, cs) ← textUntil? stop atEnd cs
        return (x :: text, cs)
      | 'x' :: _ => none
      | d :: cs => do
        let (text, cs) ← textUntil? stop atEnd cs
        return (escape d :: text, cs)
    else do
      let (text, cs) ← textUntil? stop atEnd cs
      return (c :: text, cs)

def isLineEnd (c : Char) : Bool := c == '\n' || c == '\r'

/-- A text between quotes at the start of the line, and what follows it. -/
def quoted? : List Char → Option (Option (List Char × List Char))
  | '"' :: cs => some (textUntil? (· == '"') false cs)
  | '\'' :: cs => some (textUntil? (· == '\'') false cs)
  | _ => none

/-- A value: quoted texts in a row, then what is left of the line less the white space at its end,
and at its start if nothing is quoted. -/
def value? (isFirst : Bool) : Nat → List Char → Option (List Char × List Char)
  | 0, _ => none
  | fuel + 1, cs =>
    match quoted? cs with
    | some quoted => do
      let (text, cs) ← quoted
      let (more, cs) ← value? false fuel (cs.drop 1)
      return (text ++ more, cs)
    | none => do
      let (text, cs) ← textUntil? isLineEnd true cs
      return (if isFirst then Text.trimChars text else Text.trimEnd text, cs)

def isBlank (c : Char) : Bool := c == ' ' || c == '\t'

/-- Whether a line whose start is blank goes on with a key. -/
def startsKey (cs : List Char) : Bool := cs.head?.any fun c => c != '[' && !isLineEnd c

/-- The text after white space, and whether it starts a line. The blanks in front of a key stay if
they start the line, as does white space other than blanks and line endings unless `other` is
set. -/
def skipSpace (other lineStart : Bool) : List Char → Bool × List Char
  | [] => (lineStart, [])
  | c :: cs =>
    if c = '\n' then skipSpace other true cs
    else if isBlank c then
      if lineStart && startsKey (cs.dropWhile isBlank) then (true, c :: cs)
      else skipSpace other false cs
    else if c = '\r' || (other && Text.isSpace c) then skipSpace other false cs
    else (lineStart, c :: cs)

def trimmed (cs : List Char) : String := String.ofList (Text.trimChars cs)

/-- The entries of a file. A comment has to start its line, so that behind blanks it is part of a
key. A key behind blanks may break off at the end of the file. White space in front of the first
entry is part of its key if it is neither blank nor a line ending. -/
def entries? : Nat → Bool → Bool → List Char → Option (List Entry)
  | 0, _, _, _ => none
  | fuel + 1, isFirst, lineStart, cs =>
    match skipSpace (!isFirst) lineStart cs with
    | (_, []) => some []
    | (lineStart, c :: cs) =>
      if c = ';' || c = '#' then
        if lineStart then entries? fuel false true ((cs.dropWhile (· != '\n')).drop 1) else none
      else if c = '[' then do
        let (name, cs) ← textUntil? (· == ']') false cs
        let entries ← entries? fuel false false (cs.drop 1)
        return .header (trimmed name) :: entries
      else
        match textUntil? (fun c => c == '=' || c == ':') false (c :: cs) with
        | none => if isBlank c then some [] else none
        | some (name, cs) => do
          if (Text.trimChars name).isEmpty then none
          else
            let cs := (cs.drop 1).dropWhile fun c => Text.isSpace c && !isLineEnd c
            let (value, cs) ← value? true (cs.length + 1) cs
            let entries ← entries? fuel false false cs
            return .assign (trimmed name) (String.ofList value) :: entries

/-- The table of all entries. A header starts its section afresh. -/
def ofEntries (entries : List Entry) : Data :=
  let (data, _) := entries.foldl (fun (data, header) entry =>
    match entry with
    | .header name => (Data.changeAt (fun _ => .table []) [.field name] data, [.field name])
    | .assign name value =>
      (Data.changeAt (fun _ => .text value) (header ++ [.field name]) data, header))
    (Data.table [], ([] : List Data.Step))
  data

/-- Reads a file of sections. Its values are texts. -/
def read (s : String) : Option Data := (entries? (s.length + 1) true true s.toList).map ofEntries

end PageFilters.Ini
