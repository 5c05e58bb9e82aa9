import PageFilters.Yaml.Scalar
import PageFilters.Yaml.Token

namespace PageFilters.Yaml

/-- Where a key may have begun that a colon on the same line makes one. -/
structure KeyStart where
  /-- The number of tokens in front of it. -/
  place : Nat
  cursor : Cursor
  /-- Whether nothing but a key can stand there. -/
  required : Bool

/-- How far the text of a collection is indented. -/
structure Indent where
  /-- The column of the collection around it. -/
  outer : Int
  /-- Whether it is a block with a token for its end. -/
  isBlock : Bool

/-- The tokens up to a position, and what decides about the next ones. -/
structure Scan where
  cursor : Cursor
  tokens : Array Token := #[]
  /-- Whether a key may begin here. -/
  keyAllowed : Bool := true
  /-- The last possible key of each collection in brackets or braces, the innermost first, and of
  the block around them. -/
  keys : List (Option KeyStart) := [none]
  indent : Int := -1
  indents : List Indent := []
  /-- How many brackets and braces are open. -/
  depth : Nat := 0
  /-- Where a colon right behind a key counts without a blank after it. -/
  adjacent : Option Nat := none
  /-- Whether keys belong to a mapping that has its own braces or question mark. -/
  explicit : Bool := false
  /-- Whether the last colon began a mapping of one field, which ends at the next comma or closing
  bracket. -/
  inPair : Bool := false

namespace Scan

/-- How many brackets and braces may be open. -/
def maxDepth : Nat := 255

/-- How many characters a key may have. -/
def maxKeyLength : Nat := 1024

def push (token : Token) (s : Scan) : Scan := { s with tokens := s.tokens.push token }

def moveTo (c : Cursor) (s : Scan) : Scan := { s with cursor := c }

def allowKey (allowed : Bool) (s : Scan) : Scan := { s with keyAllowed := allowed }

/-- Whether the line has to be indented further than it is. -/
def isOutside (s : Scan) : Bool := s.cursor.column < s.indent

/-- Notes that a key may begin here. -/
def saveKey (s : Scan) : Scan :=
  if s.keyAllowed then
    let required := s.depth == 0 && s.indent == s.cursor.column && s.indents.head?.any (·.isBlock)
    { s with keys := some ⟨s.tokens.size, s.cursor, required⟩ :: s.keys.tail }
  else s

/-- Gives up the last possible key. -/
def removeKey? (s : Scan) : Option Scan :=
  match s.keys with
  | some k :: keys => if k.required then none else some { s with keys := none :: keys }
  | _ => some s

/-- Gives up possible keys on lines before this one, and long ones. -/
def staleKeys? (s : Scan) : Option Scan :=
  if s.depth = 0 then do
    let keys ← s.keys.mapM fun key =>
      match key with
      | none => some none
      | some k =>
        if k.cursor.line < s.cursor.line || k.cursor.index + maxKeyLength < s.cursor.index then
          if k.required then none else some none
        else some (some k)
    return { s with keys }
  else return s

/-- Closes blocks that are indented further than `column`. -/
def closeBlocks (column : Int) (s : Scan) : Scan :=
  if s.depth = 0 then go s.indents s.indent s.tokens else s
where
  go : List Indent → Int → Array Token → Scan
    | [], indent, tokens => { s with indents := [], indent, tokens }
    | i :: rest, indent, tokens =>
      if column < indent then
        go rest i.outer (if i.isBlock then tokens.push .blockEnd else tokens)
      else { s with indents := i :: rest, indent, tokens }

/-- Takes back that text after a mark has to be indented further. -/
def dropMarkIndents (s : Scan) : Scan :=
  let marks := s.indents.takeWhile fun i => !i.isBlock
  { s with
    indents := s.indents.drop marks.length
    indent := (marks.getLast?.map (·.outer)).getD s.indent }

/-- Text after a mark has to be indented further than the block of the mark. -/
def addMarkIndent (s : Scan) : Scan :=
  if s.depth = 0 && s.indents.head?.any (·.isBlock) then
    { s with indents := ⟨s.indent, false⟩ :: s.indents, indent := s.indent + 1 }
  else s

/-- Opens a block at a column, unless one is open there. Its token stands at `place`. -/
def openBlock (column place : Nat) (token : Token) (s : Scan) : Scan :=
  if s.depth != 0 then s
  else
    let s := match s.indents with
      | ⟨outer, false⟩ :: rest =>
        if s.indent ≤ (column : Int) then { s with indents := rest, indent := outer } else s
      | _ => s
    if s.indent < (column : Int) then
      { s with
        indents := ⟨s.indent, true⟩ :: s.indents
        indent := column
        tokens := s.tokens.insertIdxIfInBounds place token }
    else s

/-- The state at the start of the next token. -/
def skipToToken? : Nat → Scan → Option Scan
  | 0, _ => none
  | fuel + 1, s =>
    match s.cursor.rest with
    | [] => some s
    | x :: cs =>
      if x = '\t' && !s.indents.isEmpty && s.cursor.indenting && s.isOutside then do
        let (c, _) ← s.cursor.skipBlanks? true
        if endsLine c.rest then skipToToken? fuel (s.moveTo c) else none
      else if isBlank x then skipToToken? fuel (s.moveTo (s.cursor.skip 1))
      else if isBreak x then
        skipToToken? fuel
          ((s.moveTo s.cursor.nextLine).allowKey (s.keyAllowed || s.depth == 0))
      else if x = '#' then
        skipToToken? fuel (s.moveTo (s.cursor.pass (cs.takeWhile fun x => !isBreak x).length.succ))
      else some s

def skipBlanks? (s : Scan) : Option Scan :=
  (s.cursor.skipBlanks? true).map fun (c, _) => s.moveTo c

/-- Ends the mapping of one field that the last colon began. -/
def endPair (s : Scan) : Scan :=
  if s.inPair then { s.push .flowMappingEnd with explicit := false, inPair := false } else s

def flowStart? (token : Token) (s : Scan) : Option Scan := do
  let s := s.saveKey.addMarkIndent
  if s.depth = maxDepth then none
  else
    let s := { s with keys := none :: s.keys, depth := s.depth + 1, keyAllowed := true }
    let s := if token = .flowMappingStart then { s with explicit := true } else s
    let s ← (s.moveTo (s.cursor.pass 1)).skipBlanks?
    return s.push token

def flowEnd? (token : Token) (s : Scan) : Option Scan := do
  let s ← s.removeKey?
  let s := if s.depth = 0 then s else { s with depth := s.depth - 1, keys := s.keys.tail }
  let s := (s.allowKey false).endPair
  let s ← (s.moveTo (s.cursor.pass 1)).skipBlanks?
  let s := if s.depth = 0 then s else { s with adjacent := some s.cursor.index }
  return s.push token

def flowEntry? (s : Scan) : Option Scan := do
  let s ← s.removeKey?
  let s := (s.allowKey true).endPair
  let s ← (s.moveTo (s.cursor.pass 1)).skipBlanks?
  return s.push .flowEntry

/-- A hyphen in front of an item. Another one may not follow behind a tab. -/
def entry? (s : Scan) : Option Scan := do
  if s.depth != 0 || !s.keyAllowed then none
  else
    let column := s.cursor.column
    let s := s.moveTo (s.cursor.pass 1)
    let s := s.openBlock column s.tokens.size .sequenceStart
    let (c, blanks) ← s.cursor.skipBlanks? true
    if blanks.tab && c.rest.head? == some '-' && endsWord c.rest.tail then none
    else
      let s := s.moveTo c
      let s := if c.rest.head?.any isBreak || startsFlow c.rest then s.addMarkIndent else s
      let s ← s.removeKey?
      return (s.allowKey true).push .entry

/-- The state after white space that follows a question mark. -/
def skipSpace? : Nat → Bool → Scan → Option Scan
  | 0, _, _ => none
  | fuel + 1, seen, s =>
    match s.cursor.rest with
    | ' ' :: _ => skipSpace? fuel true (s.moveTo (s.cursor.skip 1))
    | '#' :: cs =>
      skipSpace? fuel seen (s.moveTo (s.cursor.pass (cs.takeWhile fun x => !isBreak x).length.succ))
    | x :: _ =>
      if isBreak x then
        skipSpace? fuel true
          ((s.moveTo s.cursor.nextLine).allowKey (s.keyAllowed || s.depth == 0))
      else if seen then some s else none
    | [] => if seen then some s else none

/-- A question mark in front of a key. -/
def key? (s : Scan) : Option Scan := do
  if s.depth = 0 && !s.keyAllowed then none
  else
    let s :=
      if s.depth = 0 then s.openBlock s.cursor.column s.tokens.size .mappingStart
      else { s with explicit := true }
    let s ← s.removeKey?
    let s := s.allowKey (s.depth == 0)
    let s ← skipSpace? (s.cursor.rest.length + 1) false (s.moveTo (s.cursor.pass 1))
    if s.cursor.rest.head? == some '\t' then none else return s.push .key

/-- The state after a colon. A tab alone may not stand before a hyphen or a word. -/
def skipColon? (s : Scan) : Option Scan := do
  let s := s.moveTo (s.cursor.pass 1)
  if s.cursor.rest.head? == some '\t' then
    let (c, blanks) ← s.cursor.skipBlanks? true
    if !blanks.space && c.rest.head?.any isWordChar then none else return s.moveTo c
  else return s

/-- A colon in front of a value. It makes a key of what began where a key may begin. -/
def value? (s : Scan) : Option Scan := do
  let start := s.cursor
  let isPair := s.depth != 0 && !s.explicit
  let s ← { s with inPair := isPair }.skipColon?
  match s.keys with
  | some k :: keys =>
    if isPair && k.cursor.line < start.line then none
    else
      let s := { s with tokens := s.tokens.insertIdxIfInBounds k.place .key }
      let s :=
        if isPair then { s with tokens := s.tokens.insertIdxIfInBounds k.place .flowMappingStart }
        else s
      let s := (s.openBlock k.cursor.column k.place .mappingStart).addMarkIndent
      return ({ s with keys := none :: keys }.allowKey false).push .value
  | _ =>
    let s := if isPair then s.push .flowMappingStart else s
    if s.depth = 0 && !s.keyAllowed then none
    else
      let s :=
        if s.depth = 0 then s.openBlock start.column s.tokens.size .mappingStart else s
      return (s.addMarkIndent.allowKey (s.depth == 0)).push .value

def anchorOrReference? (make : String → Token) (s : Scan) : Option Scan := do
  let s := s.saveKey.allowKey false
  let (name, c) ← anchor? s.cursor
  return (s.moveTo c).push (make name)

def withTag? (s : Scan) : Option Scan := do
  let s := s.saveKey.allowKey false
  let (token, c) ← tag? (s.depth != 0) s.cursor
  return (s.moveTo c).push token

def withBlock? (literal : Bool) (s : Scan) : Option Scan := do
  let s := (s.saveKey.allowKey true).dropMarkIndents
  let (text, c) ← block? literal s.indent s.cursor
  return (s.moveTo c).push (.scalar false text)

/-- A text in quotes, and the way to the token behind it. -/
def withQuoted? (single : Bool) (s : Scan) : Option Scan := do
  let s := s.saveKey.allowKey false
  let (text, c) ← quoted? single (s.depth != 0) s.indent s.cursor
  let s ← skipToToken? (c.rest.length + 1) (s.moveTo c)
  return { s with adjacent := some s.cursor.index }.push (.scalar false text)

def withPlain? (s : Scan) : Option Scan := do
  let s := (s.saveKey.allowKey false).dropMarkIndents
  let (text, c) ← plain? (s.depth != 0) (s.indent + 1) s.cursor
  return ((s.moveTo c).allowKey c.indenting).push (.scalar true text)

def withDirective? (s : Scan) : Option Scan := do
  let s ← (s.closeBlocks (-1)).removeKey?
  let (token, c) ← directive? s.cursor
  return ((s.moveTo c).allowKey false).push token

def marker? (token : Token) (s : Scan) : Option Scan := do
  let s ← (s.closeBlocks (-1)).removeKey?
  return ((s.moveTo (s.cursor.pass 3)).allowKey false).push token

/-- Whether a colon at this position stands before a value. -/
def isValueMark (s : Scan) : Bool :=
  let rest := s.cursor.rest.tail
  endsWord rest ||
    (s.depth != 0 && (startsFlow rest || s.adjacent == some s.cursor.index))

/-- The state after the token at this position. -/
def next? (s : Scan) : Option Scan :=
  let c := s.cursor
  let spaced := endsWord c.rest.tail
  if c.column == 0 && c.rest.head? == some '%' then s.withDirective?
  else if c.startsDocument then s.marker? .documentStart
  else if c.endsDocument then do
    let s ← (← s.marker? .documentEnd).skipBlanks?
    if endsLine s.cursor.rest then return s else none
  else if s.isOutside then none
  else match c.rest with
    | '[' :: _ => s.flowStart? .flowSequenceStart
    | '\x7b' :: _ => s.flowStart? .flowMappingStart
    | ']' :: _ => s.flowEnd? .flowSequenceEnd
    | '\x7d' :: _ => s.flowEnd? .flowMappingEnd
    | ',' :: _ => s.flowEntry?
    | '-' :: _ => if spaced then s.entry? else s.withPlain?
    | '?' :: _ => if spaced then s.key? else s.withPlain?
    | ':' :: _ => if s.isValueMark then s.value? else s.withPlain?
    | '*' :: _ => s.anchorOrReference? .reference
    | '&' :: _ => s.anchorOrReference? .anchor
    | '!' :: _ => s.withTag?
    | '|' :: _ => if s.depth = 0 then s.withBlock? true else s.withPlain?
    | '>' :: _ => if s.depth = 0 then s.withBlock? false else s.withPlain?
    | '\'' :: _ => s.withQuoted? true
    | '"' :: _ => s.withQuoted? false
    | '%' :: _ => none
    | '@' :: _ => none
    | '\u0060' :: _ => none
    | _ => s.withPlain?

/-- The tokens of what is left of the text, behind those before. -/
def run? : Nat → Scan → Option (List Token)
  | 0, _ => none
  | fuel + 1, s => do
    let s ← skipToToken? (s.cursor.rest.length + 1) s
    let s ← s.staleKeys?
    let s := s.closeBlocks s.cursor.column
    if s.cursor.rest.isEmpty then
      if s.keys.any fun key => key.any (·.required) then none
      else return (s.closeBlocks (-1)).tokens.toList
    else run? fuel (← s.next?)

end Scan

/-- The tokens of a text, which ends at a null character. -/
def tokens? (s : String) : Option (List Token) :=
  let text := String.ofList (s.toList.takeWhile (· != '\x00'))
  Scan.run? (text.length + 1) { cursor := .ofText text }

end PageFilters.Yaml
