import PageFilters.Toml.Statement

namespace PageFilters.Toml

/-- The keys with values up to the next header, and the statements from that on. -/
def assignments : List Statement → List (Path × Data) × List Statement
  | .assign path data :: statements =>
    let (values, rest) := assignments statements
    ((path, data) :: values, rest)
  | rest => ([], rest)

/-- Adds the tables that headers open. A key outside of them is not expected here. -/
def addTables? : Nat → Fields → List Statement → Option Fields
  | _, fields, [] => some fields
  | 0, _, _ => none
  | fuel + 1, fields, statement :: statements => do
    let (values, rest) := assignments statements
    match statement with
    | .table path => addTables? fuel (← fields.openTable? path values) rest
    | .tableArray path => addTables? fuel (← fields.pushTable? path values) rest
    | .assign _ _ => none

/-- The table that the statements of a file describe. -/
def assemble? (statements : List Statement) : Option Data := do
  let (values, rest) := assignments statements
  let fields ← Fields.assignAll? [] values
  let fields ← addTables? rest.length fields rest
  return .table (fieldsToData fields)

/-- Reads a TOML file, which may start with a byte order mark. -/
def read (s : String) : Option Data := do
  let cs :=
    match s.toList with
    | '\ufeff' :: cs => cs
    | cs => cs
  assemble? (← statements? (3 * cs.length + 4) cs)

end PageFilters.Toml
