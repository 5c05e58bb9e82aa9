import PageFilters.Ron.Number

namespace PageFilters.Ron

/-- The language extensions that matter for values. -/
structure Extensions where
  /-- The word for an optional value needs no parentheses after it. -/
  implicitSome : Bool := false
  /-- The parentheses after that word also stand for those of the value. -/
  unwrapVariants : Bool := false

/-- How deep values may be nested. Each bracket takes one level, and so does what is in it. -/
def maxDepth : Nat := 128

/-- The text after the quoted text or character at its start, if there is one. -/
def skipQuoted (cs : List Char) : List Char :=
  let cs := ((char? cs).map (·.2)).getD cs
  let cs := ((text? cs).map (·.2)).getD cs
  ((bytes? cs).map (·.2)).getD cs

/-- Whether a comma comes before the parenthesis that closes the group, and does not stand right in
front of it. `depth` further brackets are open. Nothing if the group does not close. -/
def hasSecond? : Nat → Nat → List Char → Option Bool
  | 0, _, _ => none
  | fuel + 1, depth, cs => do
    match skipQuoted (← skip? (fuel + 1) cs) with
    | [] => none
    | c :: cs =>
      if c = '(' || c = '[' || c = '\x7b' then hasSecond? fuel (depth + 1) cs
      else if c = ')' || c = ']' || c = '\x7d' then
        match depth with
        | 0 => return false
        | depth + 1 => hasSecond? fuel depth cs
      else if c = ',' && depth = 0 then
        return (← skip? (fuel + 1) cs).head? != some ')'
      else hasSecond? fuel depth cs

/-- What stands between parentheses. -/
inductive Group where
  | empty
  | fields
  | single
  | several
deriving DecidableEq, Repr

/-- What the text between parentheses is, read off its start. -/
def Group.of? (cs : List Char) : Option Group :=
  let items? (cs : List Char) : Option Group :=
    (hasSecond? (cs.length + 1) 0 cs).map fun second => if second then .several else .single
  match cs with
  | ')' :: _ => some .empty
  | cs =>
    match name? cs with
    | none => items? cs
    | some (_, cs) =>
      match skip cs with
      | ':' :: _ => some .fields
      | ',' :: cs => some (if (skip cs).head? == some ')' then .single else .several)
      | ')' :: _ => some .single
      | cs => items? cs

/-- Kinds of keys in braces. Of equal ones of different kinds the last in this order counts. -/
inductive KeyKind where
  | char
  | text
  | bytes
deriving DecidableEq, Repr

/-- A key in braces. -/
def key? (cs : List Char) : Option ((KeyKind × String) × List Char) :=
  match cs with
  | '\'' :: _ => (char? cs).map fun (c, cs) => ((.char, c.toString), cs)
  | 'b' :: _ => do
    let (bytes, cs) ← bytes? cs
    return ((.bytes, ← String.fromUTF8? (ByteArray.mk bytes.toArray)), cs)
  | cs =>
    if (name? cs).isSome then none
    else (text? cs).map fun (text, cs) => ((.text, String.ofList text), cs)

/-- The table of fields in braces. -/
def ofKeyed (fields : List ((KeyKind × String) × Data)) : Data :=
  let ofKind (kind : KeyKind) : List (String × Data) :=
    (fields.filter fun (key, _) => key.1 = kind).map fun (key, value) => (key.2, value)
  .ofFields (ofKind .char ++ ofKind .text ++ ofKind .bytes)

mutual

/-- A value at the start of the text, and what follows it. It may be nested `depth` times. -/
def value? (exts : Extensions) (fuel depth : Nat) (cs : List Char) : Option (Data × List Char) :=
  match fuel, cs with
  | 0, _ => none
  | _, '(' :: ')' :: cs => some (.null, cs)
  | fuel + 1, cs =>
    match name? cs with
    | some (name, rest) =>
      if !isRawName cs && name = "true".toList then some (.boolean true, rest)
      else if !isRawName cs && name = "false".toList then some (.boolean false, rest)
      else if !isRawName cs && name = "None".toList then some (.null, rest)
      else if !isRawName cs && name = "Some".toList then some? exts fuel depth (skip rest)
      else if !isRawName cs && (namedFloat? false name).isSome then
        match float? cs with
        | some (x, '.' :: '.' :: cs) => rangeFrom? (some x) cs
        | other => other
      else
        match skip rest with
        | '(' :: rest => group? exts fuel depth (skip rest)
        | _ => some (.null, rest)
    | none =>
      match cs with
      | '(' :: cs => group? exts fuel depth (skip cs)
      | '[' :: cs => do
        let depth + 1 := depth | none
        let (items, cs) ← items? exts fuel depth ']' (skip cs)
        return (.array items, cs)
      | '\x7b' :: cs => do
        let depth + 1 := depth | none
        let (fields, cs) ← keyed? exts fuel depth (skip cs)
        return (ofKeyed fields, cs)
      | '\'' :: _ => (char? cs).map fun (c, cs) => (.text c.toString, cs)
      | '"' :: _ => (text? cs).map fun (text, cs) => (.text (String.ofList text), cs)
      | 'r' :: _ => (text? cs).map fun (text, cs) => (.text (String.ofList text), cs)
      | cs => numeral? cs

/-- What follows the word for an optional value: a value in parentheses, with a comma behind it or
none. -/
def some? (exts : Extensions) (fuel depth : Nat) (cs : List Char) : Option (Data × List Char) :=
  match fuel, depth, cs with
  | fuel + 1, depth + 1, '(' :: cs => do
    let cs := skip cs
    if exts.unwrapVariants then
      match ← Group.of? cs with
      | .empty => return (.null, cs.tail)
      | .single => inner? exts fuel depth cs
      | _ => group? exts fuel depth cs
    else inner? exts fuel depth cs
  | fuel + 1, depth + 1, cs => if exts.implicitSome then value? exts fuel depth cs else none
  | _, _, _ => none

/-- A value and a closing parenthesis. -/
def inner? (exts : Extensions) (fuel depth : Nat) (cs : List Char) : Option (Data × List Char) :=
  match fuel with
  | 0 => none
  | fuel + 1 => do
    let (value, cs) ← value? exts fuel depth cs
    match skip cs with
    | ')' :: cs => return (value, cs)
    | ',' :: cs =>
      let ')' :: cs := skip cs | none
      return (value, cs)
    | _ => none

/-- What follows an opening parenthesis: fields if a name and a colon come first, and otherwise
items. -/
def group? (exts : Extensions) (fuel depth : Nat) (cs : List Char) : Option (Data × List Char) :=
  match fuel, depth with
  | fuel + 1, depth + 1 => do
    if (← Group.of? cs) = .fields then
      let (fields, cs) ← fields? exts fuel depth cs
      return (.ofFields fields, cs)
    else
      let (items, cs) ← items? exts fuel depth ')' cs
      return (.array items, cs)
  | _, _ => none

/-- Items up to a closing bracket. A comma may stand behind the last one. -/
def items? (exts : Extensions) (fuel depth : Nat) (close : Char) (cs : List Char) :
    Option (List Data × List Char) :=
  match fuel, depth, cs with
  | 0, _, _ => none
  | _, _, [] => none
  | fuel + 1, depth, c :: cs =>
    if c = close then some ([], cs)
    else do
      let depth + 1 := depth | none
      let (item, cs) ← value? exts fuel depth (c :: cs)
      match skip cs with
      | ',' :: cs => do
        let (items, cs) ← items? exts fuel (depth + 1) close (skip cs)
        return (item :: items, cs)
      | c :: cs => if c = close then return ([item], cs) else none
      | [] => none

/-- A colon and the value behind it, with a comma or where the fields end. -/
def fieldValue? (exts : Extensions) (fuel depth : Nat) (close : Char) (cs : List Char) :
    Option (Data × List Char) :=
  match fuel, depth with
  | fuel + 1, depth + 1 => do
    let ':' :: cs := skip cs | none
    let (value, cs) ← value? exts fuel depth (skip cs)
    match skip cs with
    | ',' :: cs => return (value, skip cs)
    | c :: cs => if c = close then return (value, c :: cs) else none
    | [] => none
  | _, _ => none

/-- Fields up to a closing parenthesis. Their names are not quoted. -/
def fields? (exts : Extensions) (fuel depth : Nat) (cs : List Char) :
    Option (List (String × Data) × List Char) :=
  match fuel, cs with
  | 0, _ => none
  | _ + 1, ')' :: cs => some ([], cs)
  | fuel + 1, cs => do
    let (name, cs) ← name? cs
    let (value, cs) ← fieldValue? exts fuel depth ')' cs
    let (fields, cs) ← fields? exts fuel depth cs
    return ((String.ofList name, value) :: fields, cs)

/-- Fields up to a closing brace. -/
def keyed? (exts : Extensions) (fuel depth : Nat) (cs : List Char) :
    Option (List ((KeyKind × String) × Data) × List Char) :=
  match fuel, cs with
  | 0, _ => none
  | _ + 1, '\x7d' :: cs => some ([], cs)
  | fuel + 1, cs => do
    let (key, cs) ← key? cs
    let (value, cs) ← fieldValue? exts fuel depth '\x7d' cs
    let (fields, cs) ← keyed? exts fuel depth cs
    return ((key, value) :: fields, cs)

end

end PageFilters.Ron
