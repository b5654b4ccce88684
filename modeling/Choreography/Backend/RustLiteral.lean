import Choreography.Text.Escaped

/-!
# String literals of Rust

A literal spells a text as `Text.escapeChar` does, with one exception: the escape of the null
character is written with two hexadecimal digits if an octal digit follows it.
-/

namespace Choreography

namespace RustLiteral

/-- An octal digit. -/
def isOctal (c : Char) : Bool := '0' ≤ c && c ≤ '7'

/-- The spelling of a null character in front of the rest of the text. -/
def null (rest : List Char) : List Char :=
  if rest.head?.any isOctal then ['\\', 'x', '0', '0'] else ['\\', '0']

/-- The text between the quotes. -/
def body (isVisible : Char → Bool) : List Char → List Char
  | [] => []
  | c :: rest =>
    (if c = '\x00' then null rest else Text.escapeChar isVisible c) ++ body isVisible rest

/-- The literal of a text. -/
def chars (isVisible : Char → Bool) (cs : List Char) : List Char :=
  '"' :: body isVisible cs ++ ['"']

/-- The literal of a text. -/
def quote (s : String) : String :=
  String.ofList (chars Text.visible s.toList)

end RustLiteral

end Choreography
