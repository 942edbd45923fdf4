/-!
# Line ends of files

A line of a file ends with a line feed, a carriage return, or both.
-/

namespace OfferRules

/-- A text with all line ends brought to line feeds. -/
def plainLineEnds : List Char → List Char
  | '\r' :: '\n' :: rest => '\n' :: plainLineEnds rest
  | '\r' :: rest => '\n' :: plainLineEnds rest
  | c :: rest => c :: plainLineEnds rest
  | [] => []

end OfferRules
