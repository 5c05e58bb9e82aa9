import PageFilters.Data.Basic

namespace PageFilters.Data

/-- A step from a value to one inside it. -/
inductive Step where
  | field (name : String)
  /-- A position in an array. A negative one counts from the end. -/
  | item (index : Int)
deriving DecidableEq, Repr

/-- Changes the element at a position. Nulls are put in front or behind where there is no such
element yet. -/
def changeItem (index : Int) (change : Data → Data) (items : List Data) : List Data :=
  let missing := (-(items.length + index)).toNat
  let items := List.replicate missing null ++ items
  let place := (if index < 0 then items.length + index else index).toNat
  let items := items ++ List.replicate (place + 1 - items.length) null
  items.modify place change

/-- Changes the value at the end of some steps. On the way whatever is not a table or an array as
the step needs it becomes an empty one. -/
def changeAt (change : Data → Data) : List Step → Data → Data
  | [], d => change d
  | .field name :: steps, d =>
    let fields := match d with
      | table fields => fields
      | _ => []
    table (setField fields name (changeAt change steps ((fields.lookup name).getD null)))
  | .item index :: steps, d =>
    let items := match d with
      | array items => items
      | _ => []
    array (changeItem index (changeAt change steps) items)

end PageFilters.Data
