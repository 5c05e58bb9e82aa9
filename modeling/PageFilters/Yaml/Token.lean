import PageFilters.Text.Digits
import PageFilters.Yaml.Cursor

namespace PageFilters.Yaml

/-- A part of a file. The starts and ends of blocks are read off the indentation. -/
inductive Token where
  | version
  /-- Declares what a tag's handle stands for. -/
  | handle (handle stem : String)
  | documentStart
  | documentEnd
  | sequenceStart
  | mappingStart
  | blockEnd
  | flowSequenceStart
  | flowSequenceEnd
  | flowMappingStart
  | flowMappingEnd
  | entry
  | flowEntry
  | key
  | value
  | anchor (name : String)
  /-- Stands for the node with the anchor. -/
  | reference (name : String)
  | tag (handle suffix : String)
  | scalar (plain : Bool) (text : String)
deriving DecidableEq, Repr

/-- Characters of the names of anchors. -/
def isAnchorChar (c : Char) : Bool := !isBlank c && !isBreak c && !isFlow c && c != '\ufeff'

def isUriChar (c : Char) : Bool :=
  c.isAlphanum || c == '-' || "#;/?:@&=+$,_.!~*'()[]%".toList.contains c

def isTagChar (c : Char) : Bool := isUriChar c && !isFlow c && c != '!'

/-- The byte that a percent sign and two hexadecimal digits stand for. -/
def escapedByte? : List Char → Option (Nat × List Char)
  | '%' :: a :: b :: cs => do
    let a ← Text.hexValue? a
    let b ← Text.hexValue? b
    return (a * 16 + b, cs)
  | _ => none

/-- The characters at the start of the text that satisfy `p`, and how many there are. Escaped bytes
make one character: an ASCII one, or a leading byte and another one, whose bits are joined. -/
def uri? (p : Char → Bool) : Nat → List Char → Option (List Char × Nat)
  | 0, _ => none
  | _ + 1, [] => some ([], 0)
  | fuel + 1, c :: cs =>
    if !p c then some ([], 0)
    else if c = '%' then do
      let (first, cs) ← escapedByte? (c :: cs)
      if first < 0x80 then
        let (text, n) ← uri? p fuel cs
        return (Char.ofNat first :: text, n + 3)
      else
        let (second, cs) ← escapedByte? cs
        let c ← Text.charOf? (first * 0x100 + second)
        if first < 0xc0 || 0xe0 ≤ first || second < 0x80 || 0xc0 ≤ second then none
        else
          let (text, n) ← uri? p fuel cs
          return (c :: text, n + 6)
    else do
      let (text, n) ← uri? p fuel cs
      return (c :: text, n + 1)

/-- The name of an anchor behind its sign. -/
def anchor? (c : Cursor) : Option (String × Cursor) :=
  let name := (c.rest.drop 1).takeWhile isAnchorChar
  if name.isEmpty then none else some (String.ofList name, c.pass (name.length + 1))

/-- An exclamation mark and letters, with another exclamation mark or none. -/
def handleChars (cs : List Char) : List Char :=
  let letters := (cs.drop 1).takeWhile isWordChar
  let last := if cs[letters.length + 1]? = some '!' then ['!'] else []
  '!' :: letters ++ last

/-- The handle and the suffix of a tag. Behind a handle between exclamation marks the suffix is not
empty. -/
def tagParts? (c : Cursor) : Option (String × String × Cursor) :=
  match c.rest with
  | '!' :: '<' :: cs => do
    let (suffix, n) ← uri? isUriChar (cs.length + 1) cs
    if cs[n]? = some '>' then return ("", String.ofList suffix, c.pass (n + 3)) else none
  | cs => do
    let handle := handleChars cs
    let (suffix, n) ← uri? isTagChar (cs.length + 1) (cs.drop handle.length)
    let c := c.pass (handle.length + n)
    if 2 ≤ handle.length && handle.getLast? == some '!' then
      if suffix.isEmpty then none else return (String.ofList handle, String.ofList suffix, c)
    else
      let suffix := handle.drop 1 ++ suffix
      if suffix.isEmpty then return ("", "!", c) else return ("!", String.ofList suffix, c)

/-- A tag, which ends at a blank, a line ending or, inside of a collection, where an item ends. -/
def tag? (flow : Bool) (c : Cursor) : Option (Token × Cursor) := do
  let (handle, suffix, c) ← tagParts? c
  if endsWord c.rest || (flow && startsFlow c.rest) then return (.tag handle suffix, c) else none

def skipBlanks (c : Cursor) : Cursor := c.skip (c.rest.takeWhile isBlank).length

/-- One to nine digits. -/
def versionPart? (c : Cursor) : Option Cursor :=
  let ds := c.rest.takeWhile Char.isDigit
  if ds.isEmpty || 9 < ds.length then none else some (c.pass ds.length)

/-- What a directive says about the version of the language. -/
def version? (c : Cursor) : Option (Token × Cursor) := do
  let c ← versionPart? (skipBlanks c)
  if c.rest.head? = some '.' then return (.version, ← versionPart? (c.pass 1)) else none

/-- What a directive says about the handle of a tag. -/
def handle? (c : Cursor) : Option (Token × Cursor) := do
  let c := skipBlanks c
  let handle := handleChars c.rest
  if c.rest.head? != some '!' || (handle.length != 1 && handle.getLast? != some '!') then none
  else
    let c := skipBlanks (c.pass handle.length)
    let first ← c.rest.head?
    if first != '!' && !isTagChar first then none
    else
      let (stem, n) ← uri? isUriChar (c.rest.length + 1) c.rest
      let c := c.pass n
      if endsWord c.rest then
        return (.handle (String.ofList handle) (String.ofList stem), c)
      else none

/-- A directive up to the end of its line. Of an unknown one nothing is kept. -/
def directive? (c : Cursor) : Option (Token × Cursor) := do
  let name := (c.rest.drop 1).takeWhile isWordChar
  let c := c.pass (name.length + 1)
  if name.isEmpty || !endsWord c.rest then none
  else
    let (token, c) ←
      if name = "YAML".toList then version? c
      else if name = "TAG".toList then handle? c
      else some (.handle "" "", c.pass (c.rest.takeWhile fun x => !isBreak x).length)
    let (c, _) ← c.skipBlanks? true
    if endsLine c.rest then return (token, c.nextLine) else none

end PageFilters.Yaml
