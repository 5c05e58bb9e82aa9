import PageFilters.Text.Digits
import PageFilters.Yaml.Cursor

namespace PageFilters.Yaml

/-- White space between two parts of a text. -/
structure Gap where
  /-- Blanks, if there is no line ending. -/
  blanks : List Char := []
  /-- Whether there is a line ending that turns into a space. -/
  broken : Bool := false
  /-- Line endings after that one. -/
  further : Nat := 0

namespace Gap

/-- What a gap stands for: its blanks, or a space for a single line ending, or the further ones. -/
def folded (g : Gap) : List Char :=
  if g.broken && g.further == 0 then [' ']
  else g.blanks ++ List.replicate g.further '\n'

def addBreak (g : Gap) : Gap :=
  if g.broken then { g with further := g.further + 1 } else { broken := true }

end Gap

/-- The characters of a plain text up to a blank or to what cannot stand in it. -/
def plainRun (flow : Bool) : List Char → List Char
  | [] => []
  | c :: cs =>
    if isBlank c || isBreak c || (flow && isFlow c) then []
    else if c = ':' && (endsWord cs || (flow && startsFlow cs)) then []
    else c :: plainRun flow cs

/-- The gap in a plain text at this position. Tabs may indent empty lines only. -/
def plainGap? (indent : Int) : Nat → Gap → Cursor → Option (Gap × Cursor)
  | 0, _, _ => none
  | fuel + 1, g, c =>
    match c.rest with
    | [] => some (g, c)
    | x :: _ =>
      if isBreak x then plainGap? indent fuel g.addBreak c.nextLine
      else if !isBlank x then some (g, c)
      else if !g.broken then plainGap? indent fuel { g with blanks := g.blanks ++ [x] } (c.skip 1)
      else if x = '\t' && c.column < indent then do
        let (c, _) ← c.skipBlanks? true
        if endsLine c.rest then plainGap? indent fuel g c else none
      else plainGap? indent fuel g (c.skip 1)

/-- The rest of a plain text after `text`, and the position behind the gap that follows it. -/
def plainFrom? (flow : Bool) (indent : Int) : Nat → List Char → Gap → Cursor →
    Option (List Char × Cursor)
  | 0, _, _, _ => none
  | fuel + 1, text, g, c =>
    if c.startsDocument || c.endsDocument || c.rest.head? == some '#' then some (text, c)
    else if flow && c.rest.head? == some '-' && startsFlow c.rest.tail then none
    else
      let run := plainRun flow c.rest
      let (text, g) := if run.isEmpty then (text, g) else (text ++ g.folded ++ run, {})
      let c := if run.isEmpty then c else c.pass run.length
      match c.rest with
      | [] => some (text, c)
      | x :: _ =>
        if isBlank x || isBreak x then do
          let (g, c) ← plainGap? indent (c.rest.length + 1) g c
          if !flow && c.column < indent then return (text, c)
          else plainFrom? flow indent fuel text g c
        else some (text, c)

/-- A text without quotes. It ends where a line is indented by less than `indent`, and inside of
brackets or braces it must not start there. -/
def plain? (flow : Bool) (indent : Int) (c : Cursor) : Option (String × Cursor) := do
  if flow && c.column < indent then none
  else
    let (text, c) ← plainFrom? flow indent (c.rest.length + 1) [] {} c
    if text.isEmpty then none else return (String.ofList text, c)

/-- The character that an escape of a code point stands for, given its digits. -/
def codePoint? (ds : List Char) : Option Char := do
  Text.charOf? (Text.ofDigits 16 (← ds.mapM (Text.digit? 16)))

/-- The character that a backslash and the given one stand for. -/
def simpleEscape? (c : Char) : Option Char :=
  [('0', '\x00'), ('a', '\x07'), ('b', '\x08'), ('t', '\t'), ('\t', '\t'), ('n', '\n'),
    ('v', '\x0b'), ('f', '\x0c'), ('r', '\r'), ('e', '\x1b'), (' ', ' '), ('"', '"'), ('/', '/'),
    ('\\', '\\'), ('N', '\u0085'), ('_', '\u00a0'), ('L', '\u2028'), ('P', '\u2029')].lookup c

/-- The character that an escape stands for and the number of characters behind its backslash. -/
def escape? : List Char → Option (Char × Nat)
  | [] => none
  | c :: cs =>
    match [('x', 2), ('u', 4), ('U', 8)].lookup c with
    | some n => if cs.length < n then none else (codePoint? (cs.take n)).map (·, n + 1)
    | none => (simpleEscape? c).map (·, 1)

/-- The characters of a quoted text up to a blank, a line ending or the closing quote, and whether a
line ending behind them is hidden by a backslash. -/
def quotedRun? (single : Bool) : Nat → Cursor → Option (List Char × Bool × Cursor)
  | 0, _ => none
  | fuel + 1, c =>
    match c.rest with
    | [] => some ([], false, c)
    | x :: cs =>
      if isBlank x || isBreak x then some ([], false, c)
      else if single && x = '\'' then
        if cs.head? == some '\'' then do
          let (run, hidden, c) ← quotedRun? single fuel (c.pass 2)
          return ('\'' :: run, hidden, c)
        else some ([], false, c)
      else if !single && x = '"' then some ([], false, c)
      else if !single && x = '\\' then
        if cs.head?.any isBreak then some ([], true, (c.pass 1).nextLine)
        else do
          let (y, n) ← escape? cs
          let (run, hidden, c) ← quotedRun? single fuel (c.pass (n + 1))
          return (y :: run, hidden, c)
      else do
        let (run, hidden, c) ← quotedRun? single fuel (c.pass 1)
        return (x :: run, hidden, c)

/-- The gap in a quoted text at this position; `fresh` if it starts a line. A tab may not stand
where the line has to be indented. -/
def quotedGap? (indent : Int) : Nat → Bool → Gap → Cursor → Option (Gap × Cursor)
  | 0, _, _, _ => none
  | fuel + 1, fresh, g, c =>
    match c.rest with
    | [] => some (g, c)
    | x :: _ =>
      if isBreak x then
        let g := if fresh then { g with further := g.further + 1 } else { broken := true }
        quotedGap? indent fuel true g c.nextLine
      else if !isBlank x then some (g, c)
      else if !fresh then
        quotedGap? indent fuel fresh { g with blanks := g.blanks ++ [x] } (c.skip 1)
      else if x = '\t' && c.column < indent then none
      else quotedGap? indent fuel fresh g (c.skip 1)

/-- The rest of a quoted text, and the position of its closing quote. -/
def quotedFrom? (single : Bool) (indent : Int) : Nat → Cursor → Option (List Char × Cursor)
  | 0, _ => none
  | fuel + 1, c =>
    if c.startsDocument || c.endsDocument || c.rest.isEmpty || c.column < indent then none
    else do
      let (run, hidden, c) ← quotedRun? single (c.rest.length + 1) c
      if c.rest.head? == some (if single then '\'' else '"') then return (run, c)
      else do
        let (g, c) ← quotedGap? indent (c.rest.length + 1) hidden {} c
        let (text, c) ← quotedFrom? single indent fuel c
        return (run ++ g.folded ++ text, c)

/-- A text in quotes and the position behind it. On the same line only the end of an item of a
collection or a colon may follow; the colon only if the text is on one line or in a collection. -/
def quoted? (single flow : Bool) (indent : Int) (start : Cursor) : Option (String × Cursor) := do
  let (text, c) ← quotedFrom? single indent (start.rest.length + 1) (start.pass 1)
  let (c, _) ← (c.pass 1).skipBlanks? true
  let follows := match c.rest with
    | [] => true
    | ':' :: _ => flow || start.line == c.line
    | x :: _ => isBreak x || (flow && (x == ',' || x == '\x7d' || x == ']'))
  if follows then return (String.ofList text, c) else none

/-- What happens to the line endings at the end of a block. -/
inductive Chomping where
  | clip
  | strip
  | keep
deriving DecidableEq

def chomping? (c : Char) : Option Chomping :=
  if c = '+' then some .keep else if c = '-' then some .strip else none

/-- The marks behind the sign that starts a block: what to do at its end, and by how much it is
indented if that is not zero, in either order; and how many marks there are. -/
def blockHeader? (cs : List Char) : Option (Chomping × Nat × Nat) :=
  let first := cs.head?
  let second := cs.tail.head?
  match first.bind chomping?, first.filter Char.isDigit with
  | some chomping, _ =>
    match second.filter Char.isDigit with
    | some d => if d = '0' then none else some (chomping, d.toNat - 48, 2)
    | none => some (chomping, 0, 1)
  | none, some d =>
    if d = '0' then none
    else match second.bind chomping? with
      | some chomping => some (chomping, d.toNat - 48, 2)
      | none => some (.clip, d.toNat - 48, 1)
  | none, none => some (.clip, 0, 0)

/-- The position after up to `limit` spaces on this line and on all lines before it that hold no
more than that, the number of these lines, and the largest column reached. -/
def blockIndent (limit : Option Nat) : Nat → Nat → Nat → Cursor → Nat × Nat × Cursor
  | 0, breaks, widest, c => (breaks, widest, c)
  | fuel + 1, breaks, widest, c =>
    let spaces := (c.rest.takeWhile (· == ' ')).length
    let c := c.skip (limit.elim spaces fun limit => min spaces (limit - c.column))
    let widest := max widest c.column
    match c.rest with
    | x :: _ =>
      if isBreak x then blockIndent limit fuel (breaks + 1) widest c.nextLine
      else (breaks, widest, c)
    | [] => (breaks, widest, c)

/-- The lines of a block that are indented by `indent`, after `text`. There is a line ending between
them if `broken`, and `breaks` empty lines. A folded block joins two lines by a space unless one of
them starts with a blank. -/
def blockLines (literal : Bool) (indent : Nat) : Nat → List Char → Bool → Bool → Nat → Cursor →
    List Char × Bool × Nat × Cursor
  | 0, text, broken, _, breaks, c => (text, broken, breaks, c)
  | fuel + 1, text, broken, blankBefore, breaks, c =>
    if c.column != indent || c.rest.isEmpty then (text, broken, breaks, c)
    else
      let blank := c.rest.head?.any isBlank
      let joint :=
        if !literal && broken && !blankBefore && !blank then
          if breaks = 0 then [' '] else List.replicate breaks '\n'
        else List.replicate ((if broken then 1 else 0) + breaks) '\n'
      let line := c.rest.takeWhile fun x => !isBreak x
      let text := text ++ joint ++ line
      let c := c.skip line.length
      if c.rest.isEmpty then (text, false, 0, c)
      else
        let (breaks, _, c) := blockIndent (some indent) (c.rest.length + 1) 0 0 c.nextLine
        blockLines literal indent fuel text true blank breaks c

/-- A block, given the position of its sign and how far the text around it is indented. -/
def block? (literal : Bool) (outer : Int) (start : Cursor) : Option (String × Cursor) := do
  let c := start.pass 1
  let (chomping, increment, n) ← blockHeader? c.rest
  let (c, _) ← (c.pass n).skipBlanks? true
  if !endsLine c.rest then none
  else
    let broken := !c.rest.isEmpty
    let c := if broken then c.nextLine else c
    if c.rest.head? == some '\t' then none
    else
      let fuel := c.rest.length + 1
      let given := (if 0 ≤ outer then outer + increment else increment).toNat
      let (breaks, widest, c) :=
        blockIndent (if increment = 0 then none else some given) fuel 0 0 c
      let indent := if increment = 0 then max widest (outer + 1).toNat else given
      if c.rest.isEmpty then
        let kept := if chomping = .keep && breaks != 0 then breaks else 1
        let n := if chomping = .strip || c.line == start.line then 0 else kept
        return (String.ofList (List.replicate n '\n'), c)
      else if c.column < indent && outer < c.column then none
      else
        let (text, ended, breaks, c) := blockLines literal indent fuel [] false false breaks c
        let ended := if ended then ['\n'] else []
        let last := if c.rest.isEmpty && max indent 1 ≤ c.column then ['\n'] else []
        let text := if chomping = .strip then text else text ++ ended ++ last
        let text := if chomping = .keep then text ++ List.replicate breaks '\n' else text
        return (String.ofList text, c)

end PageFilters.Yaml
