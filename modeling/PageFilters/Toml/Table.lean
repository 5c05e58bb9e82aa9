import PageFilters.Data.Basic

namespace PageFilters.Toml

/-- A key with the parts between its dots. -/
abbrev Path := List String

/-- How a table came to be: by a header, as part of a longer header, or as part of a dotted key. -/
inductive Origin where
  | header
  | implied
  | dotted
deriving DecidableEq

/-- A value that later statements may still extend. -/
inductive Node where
  /-- A value that is complete. -/
  | leaf (data : Data)
  | table (origin : Origin) (fields : List (String × Node))
  /-- An array of tables, the last one in front. -/
  | tables (items : List (List (String × Node)))

/-- The fields of a table in the order in which they were written. -/
abbrev Fields := List (String × Node)

namespace Fields

def get? (fields : Fields) (key : String) : Option Node :=
  (fields.find? fun (name, _) => name == key).map (·.2)

/-- Sets the node under a key, in its place if there is one. -/
def set (fields : Fields) (key : String) (node : Node) : Fields :=
  if (fields.get? key).isSome then
    fields.map fun (name, old) => if name == key then (name, node) else (name, old)
  else fields ++ [(key, node)]

/-- Changes the table at the end of a path. Tables missing on the way are made. A dotted key does
not enter a table that has a header, and those that it enters can get none any more. -/
def modify? (dotted : Bool) (change : Origin → Fields → Option Fields) :
    Path → Origin → Fields → Option Fields
  | [], origin, fields => change origin fields
  | key :: path, _, fields =>
    match fields.get? key with
    | none =>
      let origin := if dotted then .dotted else .implied
      (modify? dotted change path origin []).map fun inner => fields.set key (.table origin inner)
    | some (.table origin inner) =>
      if dotted && origin == .header then none
      else
        let origin := if dotted then .dotted else origin
        (modify? dotted change path origin inner).map fun inner =>
          fields.set key (.table origin inner)
    | some (.tables (last :: items)) =>
      (modify? dotted change path .header last).map fun last =>
        fields.set key (.tables (last :: items))
    | some _ => none

/-- Sets the value of a dotted key that has none yet. -/
def assign? (fields : Fields) (path : Path) (data : Data) : Option Fields :=
  match path.getLast? with
  | none => none
  | some key =>
    let parents := path.dropLast
    modify? true (fun origin inner =>
      if (origin == .dotted) == parents.isEmpty || (inner.get? key).isSome then none
      else some (inner.set key (.leaf data))) parents .header fields

/-- Sets the values of several keys in turn. -/
def assignAll? (fields : Fields) (values : List (Path × Data)) : Option Fields :=
  values.foldlM (fun fields (path, data) => fields.assign? path data) fields

/-- Opens the table that a header names, which no header has opened before, and fills it. -/
def openTable? (fields : Fields) (path : Path) (values : List (Path × Data)) : Option Fields :=
  match path.getLast? with
  | none => none
  | some key =>
    modify? false (fun _ outer =>
      match outer.get? key with
      | none => (assignAll? [] values).map fun inner => outer.set key (.table .header inner)
      | some (.table .implied inner) =>
        (assignAll? inner values).map fun inner => outer.set key (.table .header inner)
      | some _ => none) path.dropLast .header fields

/-- Appends a table to the array of tables that a header names, and fills it. -/
def pushTable? (fields : Fields) (path : Path) (values : List (Path × Data)) : Option Fields :=
  match path.getLast? with
  | none => none
  | some key =>
    modify? false (fun _ outer => do
      let inner ← assignAll? [] values
      match outer.get? key with
      | none => return outer.set key (.tables [inner])
      | some (.tables items) => return outer.set key (.tables (inner :: items))
      | some _ => none) path.dropLast .header fields

end Fields

mutual

def Node.toData : Node → Data
  | .leaf data => data
  | .table _ fields => .table (fieldsToData fields)
  | .tables items => .array (itemsToData items).reverse

def fieldsToData : List (String × Node) → List (String × Data)
  | [] => []
  | (key, node) :: fields => (key, node.toData) :: fieldsToData fields

def itemsToData : List (List (String × Node)) → List Data
  | [] => []
  | fields :: items => .table (fieldsToData fields) :: itemsToData items

end

/-- The table that the fields of an inline table make. -/
def inlineTable? (values : List (Path × Data)) : Option Data :=
  (Fields.assignAll? [] values).map fun fields => .table (fieldsToData fields)

end PageFilters.Toml
