import PageFilters.Data.Json
import PageFilters.Registry.Basic

namespace PageFilters.Listing

/-- A line of the listing, with summaries in one column. -/
def line (width : Nat) : String × String → String
  | (name, summary) =>
    name ++ String.ofList (List.replicate (width - name.length) ' ') ++ "  " ++ summary ++ "\n"

/-- Names and summaries, one filter a line. -/
def plain (filters : List (String × String)) : String :=
  let width := (filters.map fun (name, _) => name.length).foldl max 0
  String.join (filters.map (line width))

def item : String × String → String
  | (name, summary) =>
    "  \x7b\n    \"name\": " ++ Json.quoted name ++ ",\n    \"summary\": " ++ Json.quoted summary ++
      "\n  \x7d"

/-- Names and summaries as a JSON array. -/
def json (filters : List (String × String)) : String :=
  if filters.isEmpty then "[]\n"
  else "[\n" ++ ",\n".intercalate (filters.map item) ++ "\n]\n"

end PageFilters.Listing
