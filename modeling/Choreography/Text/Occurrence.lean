/-!
# Text within text
-/

namespace Choreography

namespace Text

/-- The first text stands somewhere within the second. -/
def occursIn (part : List Char) : List Char → Bool
  | [] => part.isEmpty
  | c :: rest => part.isPrefixOf (c :: rest) || occursIn part rest

end Text

end Choreography
