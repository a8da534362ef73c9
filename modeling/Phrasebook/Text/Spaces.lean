/-! # Runs of spaces

A run of spaces is replaced by one space. Only the space character counts; tabs, line breaks and
other blank characters stay as they are.
-/

namespace Phrasebook.Text

/-- Keeps the first space of every run; `afterSpace` says whether a space stands just before. -/
def squeeze (afterSpace : Bool) : List Char → List Char
  | [] => []
  | c :: cs =>
    if c = ' ' then
      if afterSpace then squeeze true cs else c :: squeeze true cs
    else
      c :: squeeze false cs

/-- Replaces every run of spaces by a single space. -/
def collapseSpaces (text : String) : String := String.ofList (squeeze false text.toList)

end Phrasebook.Text
