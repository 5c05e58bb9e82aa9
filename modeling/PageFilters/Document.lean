import PageFilters.Data.Basic
import PageFilters.Run

namespace PageFilters

/-- A filter of a block with its arguments. -/
structure FilterCall where
  name : String
  args : List Argument := []
deriving DecidableEq, Repr

/-- A text and the filters that it goes through. -/
structure Block where
  text : String := ""
  /-- A pipe list applied outside the block filters. -/
  pipe : Option String := none
  filters : List FilterCall := []
  /-- Whether the buffer is flushed once the block is printed. -/
  flush : Bool := false
deriving DecidableEq, Repr

/-- A page as a list of blocks. -/
structure Document where
  blocks : List Block := []
deriving DecidableEq, Repr

/-- Why a page was not rendered. -/
inductive DocumentError where
  | read (path : String)
  | parse
  | filter (index : Nat) (source : FilterError)
  | render (index : Nat) (source : RenderError)
  | flush (source : RenderError)
deriving DecidableEq, Repr

def DocumentError.message : DocumentError → String
  | read path => s!"failed to read page document {path}"
  | parse => "failed to parse page document"
  | filter index _ => s!"failed to resolve filters for block {index}"
  | render index _ => s!"failed to render block {index}"
  | flush _ => "failed to flush page output"

/-- The calls of a block, outermost first. -/
def Block.calls (b : Block) : List Call :=
  (b.pipe.map Call.piped).toList ++ b.filters.map fun c => .named c.name c.args

/-- The filters of a block, outermost first. -/
def Block.resolve (r : Registry) (b : Block) : Except FilterError (List Filter) := do
  let filters ← b.calls.mapM r.resolve
  return filters.flatten

/-- How often content inside these calls is rendered at most, and how many producers that
registers, in the standard registry: the first is the product of the repeats passed so far. -/
def Call.countDefers : Nat → List Call → Nat
  | _, [] => 0
  | times, .named "Repeat" [.integer n] :: calls => countDefers (times * n.toNat) calls
  | times, .named "Defer" _ :: calls => times + countDefers times calls
  | times, .named _ _ :: calls => countDefers times calls
  | times, .piped list :: calls =>
    match PipeList.parse list with
    | .ok names => times * names.count "Defer" + countDefers times calls
    | .error _ => countDefers times calls

/-- Prints a block, then flushes if the block says so. -/
def Block.render (e : Engine) (index : Nat) (b : Block) (s : State) :
    Option (Except DocumentError Unit × State) :=
  match b.resolve s.request.filters with
  | .error error => some (.error (.filter index error), s)
  | .ok filters => do
    let (result, s) ← e.runContent (Filter.compose filters (.literal b.text)) s
    match result with
    | .error error => return (.error (.render index error), s)
    | .ok text =>
      let s := s.print text
      if b.flush then
        let (result, s) ← e.flushBuffer s
        return (result.mapError .flush, s)
      else return (.ok (), s)

/-- Prints blocks in turn, counting from `index`, up to the first that fails. -/
def Block.renderAll (e : Engine) : Nat → List Block → State →
    Option (Except DocumentError Unit × State)
  | _, [], s => some (.ok (), s)
  | index, b :: bs, s => do
    let (result, s) ← b.render e index s
    match result with
    | .error error => return (.error error, s)
    | .ok () => renderAll e (index + 1) bs s

/-- Prints every block, then finishes the request and takes its output. -/
def Document.render (fuel : Nat) (d : Document) (s : State) :
    Option (Except DocumentError String × State) := do
  let e := Engine.ofFuel fuel
  let (result, s) ← Block.renderAll e 0 d.blocks s
  match result with
  | .error error => return (.error error, s)
  | .ok () =>
    let (result, s) ← e.finish s
    return (result.mapError .flush, s)

/-- How many producers the blocks register at most, in the standard registry. -/
def Block.totalDefers : List Block → Nat
  | [] => 0
  | b :: bs => Call.countDefers 1 b.calls + totalDefers bs

/-- Fuel for the drains of a page that uses the standard registry on a fresh request: one unit for
each producer and a few for the flushes around them. -/
def Document.fuel (d : Document) : Nat :=
  Block.totalDefers d.blocks + 3

namespace Document

/-- An argument in a data file: an integer or a text. -/
def argument? : Data → Option Argument
  | .integer n => if Argument.InRange n then some (.integer n) else none
  | .text s => some (.text s)
  | _ => none

def arguments? : Data → Option (List Argument)
  | .array items => items.mapM argument?
  | _ => none

/-- The values of a record's fields, in the order of `names`, from a table or from an array that
lists them by position. A table has no other fields. An array may stop early, and may go on only
where surplus elements are ignored. -/
def fields? (surplus : Bool) (names : List String) : Data → Option (List (Option Data))
  | .table fields =>
    if fields.all fun (name, _) => names.contains name then
      some (names.map fun name => (Data.table fields).field? name)
    else none
  | .array items =>
    if surplus || items.length ≤ names.length then
      some (names.mapIdx fun i _ => items[i]?)
    else none
  | _ => none

def text? : Data → Option String
  | .text s => some s
  | _ => none

/-- A text that may be given as null. -/
def optionalText? : Data → Option (Option String)
  | .text s => some (some s)
  | .null => some none
  | _ => none

def boolean? : Data → Option Bool
  | .boolean b => some b
  | _ => none

def filterCall? (surplus : Bool) (d : Data) : Option FilterCall := do
  let [name, args] ← fields? surplus ["name", "args"] d | none
  let name ← name.bind text?
  let args ← args.elim (some []) arguments?
  return { name, args }

def filterCalls? (surplus : Bool) : Data → Option (List FilterCall)
  | .array items => items.mapM (filterCall? surplus)
  | _ => none

def block? (surplus : Bool) (d : Data) : Option Block := do
  let [text, pipe, filters, flush] ← fields? surplus ["text", "pipe", "filters", "flush"] d | none
  let text ← text.elim (some "") text?
  let pipe ← pipe.elim (some none) optionalText?
  let filters ← filters.elim (some []) (filterCalls? surplus)
  let flush ← flush.elim (some false) boolean?
  return { text, pipe, filters, flush }

def blocks? (surplus : Bool) : Data → Option (List Block)
  | .array items => items.mapM (block? surplus)
  | _ => none

/-- The document that a table describes. -/
def ofData? (surplus : Bool) (d : Data) : Option Document := do
  let .table _ := d | none
  let [blocks] ← fields? surplus ["blocks"] d | none
  let blocks ← blocks.elim (some []) (blocks? surplus)
  return { blocks }

end Document

end PageFilters
