import PageFilters.Ron.Value

namespace PageFilters.Ron

/-- The extensions with the one of a name switched on, if there is one. -/
def Extensions.enable? (exts : Extensions) (name : List Char) : Option Extensions :=
  if name = "implicit_some".toList then some { exts with implicitSome := true }
  else if name = "unwrap_variant_newtypes".toList then some { exts with unwrapVariants := true }
  else if name = "unwrap_newtypes".toList || name = "explicit_struct_names".toList then some exts
  else none

/-- The extensions that a list in parentheses switches on, and the text behind it. -/
def enabled? : Nat → Extensions → List Char → Option (Extensions × List Char)
  | 0, _, _ => none
  | fuel + 1, exts, cs => do
    let (name, cs) ← name? cs
    let exts ← exts.enable? name
    match skip cs with
    | ',' :: cs =>
      match skip cs with
      | ')' :: cs => return (exts, cs)
      | cs => enabled? fuel exts cs
    | ')' :: cs => return (exts, cs)
    | _ => none

/-- An attribute after its opening bracket: the extensions with those that it switches on. A type or
a schema, which others may look at, is passed over. -/
def attribute? (fuel : Nat) (exts : Extensions) (cs : List Char) :
    Option (Extensions × List Char) := do
  let (name, cs) ← name? cs
  match skip cs with
  | '(' :: cs => if name = "enable".toList then enabled? fuel exts (skip cs) else none
  | '=' :: cs =>
    if name = "type".toList || name = "schema".toList then
      let (_, cs) ← text? (skip cs)
      return (exts, cs)
    else none
  | _ => none

/-- The extensions that the attributes in front of the value switch on, and the text of the
value. -/
def attributes? : Nat → Extensions → List Char → Option (Extensions × List Char)
  | 0, _, _ => none
  | fuel + 1, exts, cs =>
    match skip cs with
    | '#' :: cs => do
      let '!' :: cs := skip cs | none
      let '[' :: cs := skip cs | none
      let (exts, cs) ← attribute? fuel exts (skip cs)
      let ']' :: cs := skip cs | none
      attributes? fuel exts cs
    | cs => some (exts, cs)

/-- Reads an object notation of named fields in parentheses, maps in braces and lists in
brackets. -/
def read (s : String) : Option Data := do
  let fuel := 3 * s.length + 3
  let (exts, cs) ← attributes? fuel {} s.toList
  let (value, cs) ← value? exts fuel maxDepth cs
  let rest ← skip? (cs.length + 1) cs
  if rest.isEmpty then return value else none

end PageFilters.Ron
