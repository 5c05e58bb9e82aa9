import PageFilters.Yaml.Node
import PageFilters.Yaml.Scan

namespace PageFilters.Yaml

/-- The nodes with anchors. -/
structure Anchors where
  count : Nat := 0
  /-- The number of the last anchor with a name, in front of earlier ones. -/
  numbers : List (String × Nat) := []
  /-- Nodes by the number of their anchor, once they are complete. -/
  nodes : List (Nat × Node) := []

/-- A tag whose handle has been replaced by what it stands for. -/
structure Tag where
  stem : String
  suffix : String

/-- What the handles of a document's tags stand for. -/
abbrev Handles := List (String × String)

def coreTags : String := "tag:yaml.org,2002:"

/-- The tag with a handle and a suffix. A handle between exclamation marks must be declared. -/
def Tag.resolve? (handles : Handles) (handle suffix : String) : Option Tag :=
  match handles.lookup handle with
  | some stem => some ⟨stem, suffix⟩
  | none =>
    if handle = "!!" then some ⟨coreTags, suffix⟩
    else if 2 ≤ handle.length && handle.endsWith "!" then none
    else some ⟨handle, suffix⟩

/-- The node of a text. -/
def scalarNode (tag : Option Tag) (plain : Bool) (text : String) : Node :=
  match plain, tag with
  | false, _ => .text text
  | true, none => .ofPlain text
  | true, some tag => if tag.stem = coreTags then .ofTagged tag.suffix text else .text text

/-- An anchor and a tag, in either order, in front of a node. -/
def properties? (handles : Handles) (a : Anchors) (ts : List Token) :
    Option (Option Nat × Option Tag × Anchors × List Token) :=
  let register (name : String) : Anchors :=
    { a with count := a.count + 1, numbers := (name, a.count) :: a.numbers }
  match ts with
  | .anchor name :: .tag handle suffix :: ts => do
    let tag ← Tag.resolve? handles handle suffix
    return (some a.count, some tag, register name, ts)
  | .tag handle suffix :: .anchor name :: ts => do
    let tag ← Tag.resolve? handles handle suffix
    return (some a.count, some tag, register name, ts)
  | .anchor name :: ts => some (some a.count, none, register name, ts)
  | .tag handle suffix :: ts => do
    let tag ← Tag.resolve? handles handle suffix
    return (none, some tag, a, ts)
  | ts => some (none, none, a, ts)

/-- What the start of the tokens holds, with the anchors up to there and the tokens behind it. -/
abbrev Parsed (α : Type) := α × Anchors × List Token

/-- Whether a key or a value of a block is left out here. -/
def isLeftOut : List Token → Bool
  | .key :: _ => true
  | .value :: _ => true
  | .blockEnd :: _ => true
  | _ => false

def isFlowFieldEnd : List Token → Bool
  | .flowEntry :: _ => true
  | .flowMappingEnd :: _ => true
  | _ => false

def isFlowItemEnd : List Token → Bool
  | .flowEntry :: _ => true
  | .flowSequenceEnd :: _ => true
  | _ => false

def startsWith (token : Token) (ts : List Token) : Bool := ts.head? == some token

mutual

/-- A node. Inside of brackets and braces there are no blocks. The items of a mapping's value may
stand in the columns of its keys. -/
def node? (handles : Handles) (fuel : Nat) (block inMapping : Bool) (a : Anchors)
    (ts : List Token) : Option (Parsed Node) :=
  match fuel, ts with
  | 0, _ => none
  | _, .reference name :: ts => do
    let n ← a.numbers.lookup name
    return ((a.nodes.lookup n).getD .mismatch, a, ts)
  | fuel + 1, ts => do
    let (number, tag, a, ts) ← properties? handles a ts
    let (node, a, ts) ← content? handles fuel block inMapping number tag a ts
    match number with
    | some n => return (node, { a with nodes := (n, node) :: a.nodes }, ts)
    | none => return (node, a, ts)

/-- A node without its anchor and tag. It may be left out behind one of these. -/
def content? (handles : Handles) (fuel : Nat) (block inMapping : Bool) (number : Option Nat)
    (tag : Option Tag) (a : Anchors) (ts : List Token) : Option (Parsed Node) :=
  match fuel, ts with
  | 0, _ => none
  | _, .scalar plain text :: ts => some (scalarNode tag plain text, a, ts)
  | fuel + 1, .flowSequenceStart :: ts => do
    let (items, a, ts) ← flowItems? handles fuel true a ts
    return (.sequence items, a, ts)
  | fuel + 1, .flowMappingStart :: ts => do
    let (nodes, a, ts) ← flowFields? handles fuel true a ts
    let fields ← Node.pairUp? [] nodes
    return (.mapping fields, a, ts)
  | fuel + 1, ts =>
    if inMapping && startsWith .entry ts then do
      let (items, a, ts) ← alignedItems? handles fuel a ts
      return (.sequence items, a, ts)
    else if block && startsWith .sequenceStart ts then do
      let (items, a, ts) ← items? handles fuel a ts.tail
      return (.sequence items, a, ts)
    else if block && startsWith .mappingStart ts then do
      let (nodes, a, ts) ← fields? handles fuel a ts.tail
      let fields ← Node.pairUp? [] nodes
      return (.mapping fields, a, ts)
    else if number.isSome || tag.isSome then some (scalarNode tag true "", a, ts)
    else none

/-- Keys and values in turn up to the end of a block. -/
def fields? (handles : Handles) (fuel : Nat) (a : Anchors) (ts : List Token) :
    Option (Parsed (List Node)) :=
  match fuel, ts with
  | _ + 1, .blockEnd :: ts => some ([], a, ts)
  | fuel + 1, .key :: ts => do
    let (key, a, ts) ←
      if isLeftOut ts then some (.null, a, ts) else node? handles fuel true true a ts
    fieldValue? handles fuel key a ts
  | fuel + 1, .value :: ts => fieldValue? handles fuel .null a (.value :: ts)
  | _, _ => none

/-- The value of a key in a block, and the fields behind it. -/
def fieldValue? (handles : Handles) (fuel : Nat) (key : Node) (a : Anchors) (ts : List Token) :
    Option (Parsed (List Node)) :=
  match fuel, ts with
  | 0, _ => none
  | fuel + 1, .value :: ts => do
    let (value, a, ts) ←
      if isLeftOut ts then some (.null, a, ts) else node? handles fuel true true a ts
    let (nodes, a, ts) ← fields? handles fuel a ts
    return (key :: value :: nodes, a, ts)
  | fuel + 1, ts => do
    let (nodes, a, ts) ← fields? handles fuel a ts
    return (key :: .null :: nodes, a, ts)

/-- Items up to the end of a block. -/
def items? (handles : Handles) (fuel : Nat) (a : Anchors) (ts : List Token) :
    Option (Parsed (List Node)) :=
  match fuel, ts with
  | _, .blockEnd :: ts => some ([], a, ts)
  | fuel + 1, .entry :: ts => do
    let (item, a, ts) ←
      if startsWith .entry ts || startsWith .blockEnd ts then some (.null, a, ts)
      else node? handles fuel true false a ts
    let (items, a, ts) ← items? handles fuel a ts
    return (item :: items, a, ts)
  | _, _ => none

/-- Items in the column of the key in front of them. -/
def alignedItems? (handles : Handles) (fuel : Nat) (a : Anchors) (ts : List Token) :
    Option (Parsed (List Node)) :=
  match fuel, ts with
  | 0, _ => none
  | fuel + 1, .entry :: ts => do
    let (item, a, ts) ←
      if startsWith .entry ts || isLeftOut ts then some (.null, a, ts)
      else node? handles fuel true false a ts
    let (items, a, ts) ← alignedItems? handles fuel a ts
    return (item :: items, a, ts)
  | _, ts => some ([], a, ts)

/-- Keys and values in turn up to the closing brace. -/
def flowFields? (handles : Handles) (fuel : Nat) (isFirst : Bool) (a : Anchors)
    (ts : List Token) : Option (Parsed (List Node)) :=
  match fuel, ts with
  | 0, _ => none
  | _, .flowMappingEnd :: ts => some ([], a, ts)
  | fuel + 1, ts =>
    if !isFirst && !startsWith .flowEntry ts then none
    else
      match if isFirst then ts else ts.tail with
      | .flowMappingEnd :: ts => some ([], a, ts)
      | .key :: ts => do
        let (key, a, ts) ←
          if startsWith .value ts || isFlowFieldEnd ts then some (.null, a, ts)
          else node? handles fuel false false a ts
        flowValue? handles fuel key a ts
      | .value :: ts => flowValue? handles fuel .null a (.value :: ts)
      | ts => do
        let (key, a, ts) ← node? handles fuel false false a ts
        let (nodes, a, ts) ← flowFields? handles fuel false a ts
        return (key :: .null :: nodes, a, ts)

/-- The value of a key between braces, and the fields behind it. -/
def flowValue? (handles : Handles) (fuel : Nat) (key : Node) (a : Anchors) (ts : List Token) :
    Option (Parsed (List Node)) :=
  match fuel, ts with
  | 0, _ => none
  | fuel + 1, .value :: ts => do
    let (value, a, ts) ←
      if isFlowFieldEnd ts then some (.null, a, ts) else node? handles fuel false false a ts
    let (nodes, a, ts) ← flowFields? handles fuel false a ts
    return (key :: value :: nodes, a, ts)
  | fuel + 1, ts => do
    let (nodes, a, ts) ← flowFields? handles fuel false a ts
    return (key :: .null :: nodes, a, ts)

/-- Items up to the closing bracket. An item may be a single field. -/
def flowItems? (handles : Handles) (fuel : Nat) (isFirst : Bool) (a : Anchors)
    (ts : List Token) : Option (Parsed (List Node)) :=
  match fuel, ts with
  | 0, _ => none
  | _, .flowSequenceEnd :: ts => some ([], a, ts)
  | fuel + 1, ts =>
    if !isFirst && !startsWith .flowEntry ts then none
    else
      match if isFirst then ts else ts.tail with
      | .flowSequenceEnd :: ts => some ([], a, ts)
      | .key :: ts => do
        let (item, a, ts) ← pair? handles fuel a ts
        let (items, a, ts) ← flowItems? handles fuel false a ts
        return (item :: items, a, ts)
      | ts => do
        let (item, a, ts) ← node? handles fuel false false a ts
        let (items, a, ts) ← flowItems? handles fuel false a ts
        return (item :: items, a, ts)

/-- A mapping of a single field between brackets. -/
def pair? (handles : Handles) (fuel : Nat) (a : Anchors) (ts : List Token) : Option (Parsed Node) :=
  match fuel with
  | 0 => none
  | fuel + 1 => do
    let (key, a, ts) ←
      if startsWith .value ts || isFlowItemEnd ts then some (.null, a, ts.tail)
      else node? handles fuel false false a ts
    let (value, a, ts) ←
      if !startsWith .value ts then some (.null, a, ts)
      else if isFlowItemEnd ts.tail then some (.null, a, ts.tail)
      else node? handles fuel false false a ts.tail
    let fields ← Node.pairUp? [] [key, value]
    return (.mapping fields, a, ts)

end

/-- The tokens behind directives, and the handle that the last one of them declares. The version is
given once at most. -/
def directives? : Bool → Handles → List Token → Option (Handles × List Token)
  | versioned, _, .version :: ts => if versioned then none else directives? true [] ts
  | versioned, _, .handle handle stem :: ts => directives? versioned [(handle, stem)] ts
  | _, handles, ts => some (handles, ts)

/-- The node of a document. Directives need a mark for its start behind them. -/
def document? (fuel : Nat) (ts : List Token) : Option (Node × List Token) := do
  let (handles, rest) ← directives? false [] ts
  let explicit := startsWith .documentStart rest
  if !explicit && rest.length < ts.length then none
  else
    let ts := if explicit then rest.tail else ts
    match ts with
    | [] => return (.null, [])
    | .version :: _ => return (.null, ts)
    | .handle _ _ :: _ => return (.null, ts)
    | .documentStart :: _ => return (.null, ts)
    | .documentEnd :: _ => return (.null, ts)
    | _ => do
      let (node, _, ts) ← node? handles fuel true false {} ts
      return (node, ts)

/-- Reads a file of one document. A file without any is an empty table. -/
def read (s : String) : Option Data := do
  let ts := (← tokens? s).dropWhile (· = .documentEnd)
  if ts.isEmpty then return .table []
  else
    let (node, rest) ← document? (4 * ts.length + 4) ts
    if rest.all (· = .documentEnd) then node.toData? else none

end PageFilters.Yaml
