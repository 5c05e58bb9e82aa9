namespace PageFilters

/-- A value in a data file. -/
inductive Data where
  | null
  | boolean (value : Bool)
  | integer (value : Int)
  | float (value : Float)
  /-- A number that is written as it should be but is too large for its kind. -/
  | outOfRange (text : String)
  | text (value : String)
  /-- A date, a time of day or both, as it is written. -/
  | moment (text : String)
  | array (items : List Data)
  /-- Fields in the order in which they were written. -/
  | table (fields : List (String × Data))

namespace Data

/-- The field of a table; the last one counts if several have the name. -/
def field? (name : String) : Data → Option Data
  | table fields => (fields.reverse.find? fun (key, _) => key == name).map (·.2)
  | _ => none

/-- The fields with one of them set, in its place if it is there. -/
def setField (fields : List (String × Data)) (name : String) (value : Data) :
    List (String × Data) :=
  if fields.any fun (key, _) => key == name then
    fields.map fun (key, old) => if key == name then (key, value) else (key, old)
  else fields ++ [(name, value)]

/-- A table of fields that are set one after the other. -/
def ofFields (fields : List (String × Data)) : Data :=
  table (fields.foldl (fun fields (name, value) => setField fields name value) [])

mutual

/-- Whether all numbers in a value are in the range of their kind. -/
def isInRange : Data → Bool
  | outOfRange _ => false
  | array items => itemsInRange items
  | table fields => fieldsInRange fields
  | _ => true

def itemsInRange : List Data → Bool
  | [] => true
  | item :: items => item.isInRange && itemsInRange items

def fieldsInRange : List (String × Data) → Bool
  | [] => true
  | (_, value) :: fields => value.isInRange && fieldsInRange fields

end

mutual

/-- A value laid over another one. Tables are merged field by field; anything else replaces. -/
def overlay : Data → Data → Data
  | table fields, table below => table (overlayFields fields below)
  | table fields, _ => table (overlayFields fields [])
  | value, _ => value

def overlayFields : List (String × Data) → List (String × Data) → List (String × Data)
  | [], below => below
  | (name, value) :: fields, below =>
    overlayFields fields
      (setField below name (value.overlay ((below.lookup name).getD null)))

end

end Data

end PageFilters
