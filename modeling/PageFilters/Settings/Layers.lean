import PageFilters.Data.Ini
import PageFilters.Data.Json
import PageFilters.Data.Json5
import PageFilters.Ron.File
import PageFilters.Settings.Coercion
import PageFilters.Settings.Key
import PageFilters.Text.Lossy
import PageFilters.Toml.File
import PageFilters.Yaml.File

namespace PageFilters

/-- The regular files that a path leads to. -/
abbrev Files := String → Option ByteArray

namespace Settings

/-- What a text in a known format holds. -/
abbrev Reader := String → Option Data

/-- File name extensions and how such files are read. The first one that fits counts. -/
def readers : List (String × Reader) :=
  [("toml", Toml.read), ("json", Json.read), ("yaml", Yaml.read), ("yml", Yaml.read),
    ("ini", Ini.read), ("ron", Ron.read), ("json5", Json5.read)]

/-- The part of a path behind the last dot of its last component, unless that dot comes first. -/
def extension? (path : String) : Option String :=
  let name := path.toList.reverse.takeWhile (· != '/')
  let ext := name.takeWhile (· != '.')
  if ext.length + 1 < name.length then some (String.ofList ext.reverse) else none

/-- A path, last character first, without the slashes and single dots at its end. -/
def dropEmptyEnd : List Char → List Char
  | '/' :: cs => dropEmptyEnd cs
  | '.' :: '/' :: cs => dropEmptyEnd cs
  | cs => cs

/-- The path without an extension that its last component is named by, if that is a name. -/
def stem? (path : String) : Option String :=
  let path := dropEmptyEnd path.toList.reverse
  let name := path.takeWhile (· != '/')
  if name.isEmpty || name = ['.'] || name = ['.', '.'] then none
  else some (String.ofList path.reverse)

/-- The paths that are tried if a path does not lead to a file: those with a known extension. -/
def extended (path : String) : List (String × Reader) :=
  match stem? path with
  | none => []
  | some stem => readers.map fun (ext, reader) => (stem ++ "." ++ ext, reader)

/-- All paths that a settings file under this name may have. -/
def candidates (path : String) : List String := path :: (extended path).map (·.1)

/-- The file under a path, or else under the path with a known extension. -/
def findFile (files : Files) (path : String) : Option (Reader × ByteArray) :=
  match files path with
  | some bytes => do
    let reader ← readers.lookup (← extension? path)
    return (reader, bytes)
  | none =>
    (extended path).firstM fun (path, reader) => (files path).map fun bytes => (reader, bytes)

/-- Lays the fields of a source over what was gathered before. -/
def lay (below : Data) (fields : List (String × Data)) : Data :=
  fields.foldl (fun below (key, value) => below.changeAt value.overlay (steps key)) below

/-- Lays a file over what was gathered before. A file that is not required may be missing, but it
may not be malformed. -/
def layFile (files : Files) (required : Bool) (path : String) (below : Data) :
    Except LoadError Data :=
  match findFile files path with
  | some (reader, bytes) =>
    match reader (Text.decode bytes) with
    | some (.table fields) =>
      if Data.fieldsInRange fields then .ok (lay below fields) else .error .build
    | _ => .error .build
  | none => if required then .error .build else .ok below

/-- Start of the variables that hold settings, in lower case. -/
def variablePrefix : List Char := "mason_filter__".toList

/-- Replaces each pair of underscores by a dot. -/
def dotted : List Char → List Char
  | '_' :: '_' :: cs => '.' :: dotted cs
  | c :: cs => c :: dotted cs
  | [] => []

/-- The setting that a variable holds, if it does. -/
def settingIn? : String × String → Option (String × Data)
  | (name, value) =>
    let key := name.toList.map Char.toLower
    if variablePrefix.isPrefixOf key then
      some (String.ofList (dotted (key.drop variablePrefix.length)), .text value)
    else none

/-- The draft of all sources: the two files that every run reads, the file that the caller names,
then variables. Later ones win. -/
def gather (files : Files) (environment : List (String × String)) (configFile : Option String) :
    Except LoadError Draft := do
  let d ← layFile files false "config/default" (.table [])
  let d ← layFile files false "mason-filter" d
  let d ← configFile.elim (.ok d) fun path => layFile files true path d
  let d := lay d (environment.filterMap settingIn?)
  match draft? d with
  | some draft => return draft
  | none => throw .build

end Settings

end PageFilters
