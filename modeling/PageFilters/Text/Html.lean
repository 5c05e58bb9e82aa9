import PageFilters.Text.Lines

namespace PageFilters.Text

/-- How a character is written inside HTML text and attribute values. -/
def entity (c : Char) : List Char :=
  if c = '&' then "&amp;".toList
  else if c = '<' then "&lt;".toList
  else if c = '>' then "&gt;".toList
  else if c = '"' then "&quot;".toList
  else if c = '\'' then "&#39;".toList
  else [c]

def escapeChars (cs : List Char) : List Char := cs.flatMap entity

/-- The text with the five characters that have a meaning in HTML written as entities. -/
def htmlEscape (s : String) : String := String.ofList (escapeChars s.toList)

/-- The maximal runs of lines that are not blank. -/
def paragraphs (ls : List (List Char)) : List (List (List Char)) :=
  (segments isBlank ls).filter fun p => !p.isEmpty

/-- A paragraph between tags, each on a line of its own. -/
def tagged (p : List (List Char)) : List Char :=
  "<p>\n".toList ++ ['\n'].intercalate p ++ "\n</p>\n".toList

def paragraphed (cs : List Char) : List Char :=
  ['\n'].intercalate ((paragraphs (lines cs)).map tagged)

/-- The paragraphs of the text, each in `p` tags, with an empty line between two of them. -/
def htmlPara (s : String) : String := String.ofList (paragraphed s.toList)

end PageFilters.Text
