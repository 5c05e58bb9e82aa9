import PageFilters.Data.Basic
import PageFilters.Data.Decimal

namespace PageFilters.Yaml

/-- A value as it stands in a file. -/
inductive Node where
  | null
  /-- A text that is not of the kind that its tag names. -/
  | mismatch
  | boolean (value : Bool)
  | integer (value : Int)
  /-- A number with a point or an exponent, or the name of an infinite or undefined one. -/
  | real (text : String)
  | text (value : String)
  | sequence (items : List Node)
  | mapping (fields : List (Node × Node))

namespace Node

def infinityNames : List String :=
  [".inf", ".Inf", ".INF", "+.inf", "+.Inf", "+.INF", "-.inf", "-.Inf", "-.INF", ".nan", ".NaN",
    ".NAN"]

def isReal (text : String) : Bool :=
  infinityNames.contains text ||
    (text.toList.any Char.isDigit && (Data.decimal? text.toList).isSome)

/-- The whole number that a text writes, in the base that its start may name. -/
def integer? : List Char → Option Int
  | '0' :: 'x' :: cs => Text.integer? 16 cs
  | '0' :: 'o' :: cs => Text.integer? 8 cs
  | '+' :: cs => Text.integer? 10 cs
  | cs => Text.integer? 10 cs

/-- The truth value that a text names, in small letters, in capitals or with a capital in front. -/
def boolean? (text : String) : Option Bool :=
  if ["true", "True", "TRUE"].contains text then some true
  else if ["false", "False", "FALSE"].contains text then some false
  else none

/-- What a text without quotes and tag stands for. -/
def ofPlain (text : String) : Node :=
  match integer? text.toList with
  | some n => integer n
  | none =>
    if text = "" || text = "~" || text = "null" then null
    else
      match boolean? text with
      | some b => boolean b
      | none => if isReal text then real text else .text text

/-- What a text without quotes stands for if its tag names a kind. -/
def ofTagged (kind text : String) : Node :=
  if kind = "bool" then ((boolean? text).map boolean).getD mismatch
  else if kind = "int" then ((Text.integer? 10 text.toList).map integer).getD mismatch
  else if kind = "float" then if isReal text then real text else mismatch
  else if kind = "null" then if text = "~" || text = "null" then null else mismatch
  else .text text

/-- The text of a key, if a key may be written so. -/
def keyText? : Node → Option String
  | boolean b => some (if b then "true" else "false")
  | integer n => some (toString n)
  | real s => some s
  | text s => some s
  | _ => none

/-- Whether two keys are the same. Keys of different kinds differ. -/
def sameKey : Node → Node → Bool
  | boolean a, boolean b => a == b
  | integer a, integer b => a == b
  | real a, real b => a == b
  | text a, text b => a == b
  | null, null => true
  | _, _ => false

/-- The fields of a mapping whose keys and values come in turn. A mismatch is no key, so that the
next node is taken for one. No key comes twice. -/
def pairUp? (fields : List (Node × Node)) : List Node → Option (List (Node × Node))
  | mismatch :: nodes => pairUp? fields nodes
  | key :: value :: nodes =>
    if fields.any fun (k, _) => sameKey k key then none
    else pairUp? (fields ++ [(key, value)]) nodes
  | _ => some fields

mutual

/-- The value that a node stands for. A mismatch counts as null. -/
def toData? : Node → Option Data
  | null => some .null
  | mismatch => some .null
  | boolean b => some (.boolean b)
  | integer n => some (.integer n)
  | real s => (Data.decimal? s.toList).map .float
  | text s => some (.text s)
  | sequence items => (itemsToData? items).map .array
  | mapping fields => (fieldsToData? fields).map .ofFields

def itemsToData? : List Node → Option (List Data)
  | [] => some []
  | item :: items => do
    let d ← item.toData?
    let ds ← itemsToData? items
    return d :: ds

def fieldsToData? : List (Node × Node) → Option (List (String × Data))
  | [] => some []
  | (key, value) :: fields => do
    let name ← key.keyText?
    let d ← value.toData?
    let ds ← fieldsToData? fields
    return (name, d) :: ds

end

end Node

end PageFilters.Yaml
