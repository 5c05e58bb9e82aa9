import PageFilters.Toml.Scalar
import PageFilters.Toml.Table
import PageFilters.Toml.Text

namespace PageFilters.Toml

/-- A line of a file that says something. -/
inductive Statement where
  | table (path : Path)
  | tableArray (path : Path)
  | assign (path : Path) (data : Data)

/-- The text after a comment, which reaches to the end of its line. -/
def skipComment : List Char → List Char
  | '#' :: cs => cs.dropWhile isPlain
  | cs => cs

/-- The text after blanks, comments and line endings. -/
def skipLines : Nat → List Char → List Char
  | 0, cs => cs
  | fuel + 1, cs =>
    let rest := skipComment (skipBlanks cs)
    match newline? rest with
    | some (_, cs) => skipLines fuel cs
    | none => rest

def isBareKey (c : Char) : Bool := c.isAlphanum || c == '_' || c == '-'

def simpleKey? (fuel : Nat) : List Char → Option (String × List Char)
  | '"' :: cs => (basic? fuel cs).map fun (key, cs) => (String.ofList key, cs)
  | '\'' :: cs => (literal? cs).map fun (key, cs) => (String.ofList key, cs)
  | cs =>
    let key := cs.takeWhile isBareKey
    if key.isEmpty then none else some (String.ofList key, cs.drop key.length)

/-- The parts of a dotted key, with the blanks after it skipped. -/
def parts? : Nat → List Char → Option (Path × List Char)
  | 0, _ => none
  | fuel + 1, cs => do
    let (key, cs) ← simpleKey? fuel cs
    match skipBlanks cs with
    | '.' :: cs => do
      let (path, cs) ← parts? fuel (skipBlanks cs)
      return (key :: path, cs)
    | cs => return ([key], cs)

/-- How many parts a dotted key may have, and how deep arrays and inline tables may be nested. -/
def maxDepth : Nat := 80

/-- A dotted key of no more parts than a key may have. -/
def path? (fuel : Nat) (cs : List Char) : Option (Path × List Char) :=
  (parts? fuel cs).filter fun (path, _) => path.length ≤ maxDepth

/-- Characters that end a value without quotes. -/
def isDelimiter (c : Char) : Bool :=
  c == ' ' || c == '\t' || c == '\n' || c == '\r' || c == ',' || c == '[' || c == ']' ||
    c == '\x7b' || c == '\x7d' || c == '#' || c == '=' || c == '"' || c == '\''

/-- An unquoted value. A single space may stand between a date and a time. -/
def word (cs : List Char) : List Char × List Char :=
  let first := cs.takeWhile fun c => !isDelimiter c
  let rest := cs.drop first.length
  match rest with
  | ' ' :: d :: more =>
    if date? first == some [] && d.isDigit then
      let second := (d :: more).takeWhile fun c => !isDelimiter c
      (first ++ ' ' :: second, (d :: more).drop second.length)
    else (first, rest)
  | _ => (first, rest)

def textData (text : List Char) : Data := .text (String.ofList text)

mutual

/-- A value at the start of the text. It may be nested `depth` times. -/
def value? : Nat → Nat → List Char → Option (Data × List Char)
  | 0, _, _ => none
  | fuel + 1, depth, cs =>
    match depth, cs with
    | _, '"' :: '"' :: '"' :: cs =>
      (block? '"' true fuel cs).map fun (text, cs) => (textData text, cs)
    | _, '"' :: cs => (basic? fuel cs).map fun (text, cs) => (textData text, cs)
    | _, '\'' :: '\'' :: '\'' :: cs =>
      (block? '\'' false fuel cs).map fun (text, cs) => (textData text, cs)
    | _, '\'' :: cs => (literal? cs).map fun (text, cs) => (textData text, cs)
    | 0, '[' :: _ => none
    | depth + 1, '[' :: cs =>
      (items? fuel depth (skipLines fuel cs)).map fun (items, cs) => (.array items, cs)
    | 0, '\x7b' :: _ => none
    | depth + 1, '\x7b' :: cs => do
      let (values, cs) ← fields? fuel depth (skipLines fuel cs)
      let data ← inlineTable? values
      return (data, cs)
    | _, cs =>
      let (text, cs) := word cs
      (scalar? text).map fun data => (data, cs)

/-- Items of an array up to its closing bracket. -/
def items? : Nat → Nat → List Char → Option (List Data × List Char)
  | 0, _, _ => none
  | _ + 1, _, ']' :: cs => some ([], cs)
  | fuel + 1, depth, cs => do
    let (item, cs) ← value? fuel depth cs
    match skipLines fuel cs with
    | ',' :: cs => do
      let (items, cs) ← items? fuel depth (skipLines fuel cs)
      return (item :: items, cs)
    | ']' :: cs => return ([item], cs)
    | _ => none

/-- Fields of an inline table up to its closing brace. -/
def fields? : Nat → Nat → List Char → Option (List (Path × Data) × List Char)
  | 0, _, _ => none
  | _ + 1, _, '\x7d' :: cs => some ([], cs)
  | fuel + 1, depth, cs => do
    let (field, cs) ← field? true fuel depth cs
    match skipLines fuel cs with
    | ',' :: cs => do
      let (fields, cs) ← fields? fuel depth (skipLines fuel cs)
      return (field :: fields, cs)
    | '\x7d' :: cs => return ([field], cs)
    | _ => none

/-- A key, an equals sign and a value. Inside of an inline table there may be comments and line
endings around the equals sign. -/
def field? (inline : Bool) : Nat → Nat → List Char → Option ((Path × Data) × List Char)
  | 0, _, _ => none
  | fuel + 1, depth, cs => do
    let (path, cs) ← path? fuel cs
    match if inline then skipLines fuel cs else cs with
    | '=' :: cs => do
      let (data, cs) ← value? fuel depth (if inline then skipLines fuel cs else skipBlanks cs)
      return ((path, data), cs)
    | _ => none

end

/-- A header between brackets, or a key with its value. -/
def statement? (fuel : Nat) (cs : List Char) : Option (Statement × List Char) :=
  match cs with
  | '[' :: '[' :: cs => do
    let (path, cs) ← path? fuel (skipBlanks cs)
    match cs with
    | ']' :: ']' :: cs => return (.tableArray path, cs)
    | _ => none
  | '[' :: cs => do
    let (path, cs) ← path? fuel (skipBlanks cs)
    match cs with
    | ']' :: cs => return (.table path, cs)
    | _ => none
  | cs => do
    let ((path, data), cs) ← field? false fuel maxDepth cs
    return (.assign path data, cs)

/-- The statements of a file, each on a line of its own. The fuel has to be more than three times
the length of the text. -/
def statements? : Nat → List Char → Option (List Statement)
  | 0, _ => none
  | fuel + 1, cs =>
    match skipLines fuel cs with
    | [] => some []
    | cs => do
      let (statement, cs) ← statement? fuel cs
      match skipComment (skipBlanks cs) with
      | [] => return [statement]
      | rest => do
        let (_, cs) ← newline? rest
        let statements ← statements? fuel cs
        return statement :: statements

end PageFilters.Toml
