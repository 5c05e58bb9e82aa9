namespace PageFilters.Text

/-- Whether a code point is in one of the ranges, each given by its first and its last one. -/
def inRanges (ranges : List (Nat × Nat)) (c : Char) : Bool :=
  ranges.any fun (first, last) => first ≤ c.toNat && c.toNat ≤ last

end PageFilters.Text
