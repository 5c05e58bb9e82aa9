import PageFilters.Text.Digits

namespace PageFilters.Toml

open Text (charOf? hexValue?)

/-- Characters that may stand in a comment or a text: all but the control characters, and the
tab. -/
def isPlain (c : Char) : Bool := c == '\t' || (0x20 ≤ c.toNat && c.toNat != 0x7f)

def isBlank (c : Char) : Bool := c == ' ' || c == '\t'

def skipBlanks (cs : List Char) : List Char := cs.dropWhile isBlank

/-- A line feed, alone or after a carriage return, as it stands at the start of the text. -/
def newline? : List Char → Option (List Char × List Char)
  | '\n' :: cs => some (['\n'], cs)
  | '\r' :: '\n' :: cs => some (['\r', '\n'], cs)
  | _ => none

/-- The number that `n` hexadecimal digits write, added to the digits in `acc`. -/
def hexDigits? : Nat → Nat → List Char → Option (Nat × List Char)
  | 0, acc, cs => some (acc, cs)
  | _ + 1, _, [] => none
  | n + 1, acc, c :: cs => do
    let d ← hexValue? c
    hexDigits? n (acc * 16 + d) cs

/-- The character with a code point that `n` hexadecimal digits write. Surrogates have none. -/
def codePoint? (n : Nat) (cs : List Char) : Option (Char × List Char) := do
  let (code, cs) ← hexDigits? n 0 cs
  let c ← charOf? code
  return (c, cs)

/-- The character that an escape stands for, given what follows its backslash. -/
def escape? : List Char → Option (Char × List Char)
  | [] => none
  | c :: cs =>
    if c = '"' || c = '\\' then some (c, cs)
    else if c = 'b' then some ('\x08', cs)
    else if c = 't' then some ('\t', cs)
    else if c = 'n' then some ('\n', cs)
    else if c = 'f' then some ('\x0c', cs)
    else if c = 'r' then some ('\r', cs)
    else if c = 'e' then some ('\x1b', cs)
    else if c = 'x' then codePoint? 2 cs
    else if c = 'u' then codePoint? 4 cs
    else if c = 'U' then codePoint? 8 cs
    else none

/-- A text on one line after its opening quote, with escapes. -/
def basic? : Nat → List Char → Option (List Char × List Char)
  | _, [] => none
  | 0, _ => none
  | fuel + 1, c :: cs =>
    if c = '"' then some ([], cs)
    else if c = '\\' then do
      let (d, cs) ← escape? cs
      let (text, cs) ← basic? fuel cs
      return (d :: text, cs)
    else if isPlain c then do
      let (text, cs) ← basic? fuel cs
      return (c :: text, cs)
    else none

/-- A text on one line after its opening apostrophe, in which nothing is escaped. -/
def literal? : List Char → Option (List Char × List Char)
  | [] => none
  | c :: cs =>
    if c = '\'' then some ([], cs)
    else if isPlain c then do
      let (text, cs) ← literal? cs
      return (c :: text, cs)
    else none

/-- The rest of the text after the line ending and the blanks and line endings behind it that a
backslash at the end of a line hides. -/
def skipToText : Nat → List Char → List Char
  | 0, cs => cs
  | fuel + 1, cs =>
    match newline? (skipBlanks cs) with
    | some (_, cs) => skipToText fuel cs
    | none => skipBlanks cs

/-- A text over several lines. A run of three to five quotes ends it, the surplus being part of
the text. A backslash is an ordinary character unless `escapes` is set. -/
def multiLine? (quote : Char) (escapes : Bool) : Nat → List Char → Option (List Char × List Char)
  | _, [] => none
  | 0, _ => none
  | fuel + 1, c :: cs =>
    if c = quote then
      let surplus := (cs.takeWhile (· == quote)).length
      if surplus < 2 then do
        let (text, cs) ← multiLine? quote escapes fuel cs
        return (c :: text, cs)
      else if surplus < 5 then some (List.replicate (surplus - 2) quote, cs.drop surplus)
      else none
    else if escapes && c = '\\' then
      match newline? (skipBlanks cs) with
      | some (_, rest) => multiLine? quote escapes fuel (skipToText fuel rest)
      | none => do
        let (d, cs) ← escape? cs
        let (text, cs) ← multiLine? quote escapes fuel cs
        return (d :: text, cs)
    else
      match newline? (c :: cs) with
      | some (ending, rest) => do
        let (text, cs) ← multiLine? quote escapes fuel rest
        return (ending ++ text, cs)
      | none =>
        if isPlain c then do
          let (text, cs) ← multiLine? quote escapes fuel cs
          return (c :: text, cs)
        else none

/-- A text over several lines, less a line ending right after its opening quotes. -/
def block? (quote : Char) (escapes : Bool) (fuel : Nat) (cs : List Char) :
    Option (List Char × List Char) :=
  match newline? cs with
  | some (_, cs) => multiLine? quote escapes fuel cs
  | none => multiLine? quote escapes fuel cs

end PageFilters.Toml
