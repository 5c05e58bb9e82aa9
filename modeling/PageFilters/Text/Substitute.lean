namespace PageFilters.Text

/-- The text before and after the first occurrence of `needle`. -/
def cutFirst (needle : List Char) : List Char → Option (List Char × List Char)
  | [] => if needle.isEmpty then some ([], []) else none
  | c :: cs =>
    if needle.isPrefixOf (c :: cs) then some ([], (c :: cs).drop needle.length)
    else (cutFirst needle cs).map fun (before, after) => (c :: before, after)

def replaceFirst (needle replacement text : List Char) : Option (List Char) :=
  (cutFirst needle text).map fun (before, after) => before ++ replacement ++ after

/-- The text with the first occurrence of `needle` replaced, or `none` if there is no occurrence. -/
def substituteFirst (needle replacement text : String) : Option String :=
  (replaceFirst needle.toList replacement.toList text.toList).map String.ofList

end PageFilters.Text
