import Choreography.Number.Shortest
import Choreography.Text.Escaped

/-!
# What can be wrong with a JSON text, and where

A `Fault` is a cause and a place. The place is given by the number of bytes of the text that lie
behind it, so a reader that holds the rest of the text needs no running position.
`Position.behind` turns a number of bytes into line and column, `Position.offsetIn` goes the other
way.
-/

namespace Choreography

namespace Text

/-- The length of a text in bytes. -/
def byteLength (cs : List Char) : Nat :=
  cs.foldr (fun c n => c.utf8Size + n) 0

/-- Lengths and offsets are words of 64 bits: numbers below this one. -/
def lengthLimit : Nat := Nat.pow 2 64

end Text

namespace Json

/-- A value of a kind that was not expected. -/
inductive Found where
  | null
  | boolean (b : Bool)
  | integer (n : Int)
  | float (negative : Bool) (magnitude : Binary64)
  | string (s : String)
  | sequence
  | map
  deriving DecidableEq, Repr

/-- How a found value is described. -/
def Found.text : Found → String
  | .null => "null"
  | .boolean b => "boolean `" ++ (if b then "true" else "false") ++ "`"
  | .integer n => "integer `" ++ toString n ++ "`"
  | .float negative magnitude =>
    "floating point `" ++ (if negative then "-" else "") ++ String.ofList magnitude.text ++ "`"
  | .string s => "string " ++ Text.shown s
  | .sequence => "sequence"
  | .map => "map"

/-- The cause of a fault. -/
inductive Cause where
  /-- The text ends where a value is due. -/
  | endInValue
  | endInList
  | endInObject
  | endInString
  | valueDue
  | literalDue
  | colonDue
  | listCommaDue
  | objectCommaDue
  | keyDue
  | trailingComma
  | trailingCharacters
  | invalidNumber
  | numberOutOfRange
  | invalidEscape
  | controlCharacter
  /-- A surrogate escape that does not pair up. -/
  | loneSurrogate
  /-- A leading surrogate escape without another escape behind it. -/
  | halfPair
  | wrongType (found : Found) (expected : String)
  | missingField (key : String)
  | repeatedField (key : String)
  | wrongLength (length : Nat) (expected : String)
  | unknownVariant (name : String) (variants : List String)
  deriving DecidableEq, Repr

namespace Cause

/-- The three categories of fault. -/
inductive Category where
  /-- The text is no JSON. -/
  | form
  /-- The text stops too early. -/
  | ending
  /-- The text is JSON but does not fit what is read. -/
  | content
  deriving DecidableEq, Repr

/-- The category of a cause. -/
def category : Cause → Category
  | .endInValue | .endInList | .endInObject | .endInString => .ending
  | .wrongType .. | .missingField _ | .repeatedField _ | .wrongLength .. | .unknownVariant .. =>
    .content
  | _ => .form

/-- Names in backquotes, the last two joined by a word. -/
def listed : List String → String
  | [] => ""
  | [a] => s!"`{a}`"
  | [a, b] => s!"`{a}` or `{b}`"
  | a :: rest => s!"`{a}`, " ++ listed rest

/-- The cause in words. -/
def text : Cause → String
  | .endInValue => "EOF while parsing a value"
  | .endInList => "EOF while parsing a list"
  | .endInObject => "EOF while parsing an object"
  | .endInString => "EOF while parsing a string"
  | .valueDue => "expected value"
  | .literalDue => "expected ident"
  | .colonDue => "expected `:`"
  | .listCommaDue => "expected `,` or `]`"
  | .objectCommaDue => "expected `,` or `\x7d`"
  | .keyDue => "key must be a string"
  | .trailingComma => "trailing comma"
  | .trailingCharacters => "trailing characters"
  | .invalidNumber => "invalid number"
  | .numberOutOfRange => "number out of range"
  | .invalidEscape => "invalid escape"
  | .controlCharacter =>
    "control character (\\u0000-\\u001F) found while parsing a string"
  | .loneSurrogate => "lone leading surrogate in hex escape"
  | .halfPair => "unexpected end of hex escape"
  | .wrongType found expected => s!"invalid type: {found.text}, expected {expected}"
  | .missingField key => s!"missing field `{key}`"
  | .repeatedField key => s!"duplicate field `{key}`"
  | .wrongLength length expected => s!"invalid length {length}, expected {expected}"
  | .unknownVariant name variants => s!"unknown variant `{name}`, expected {listed variants}"

end Cause

/-- A cause and the number of bytes that lie behind its place. -/
structure Fault where
  cause : Cause
  behind : Nat
  deriving DecidableEq, Repr

/-- A fault in front of the rest of the text. -/
def Fault.before (cause : Cause) (rest : List Char) : Fault :=
  ⟨cause, Text.byteLength rest⟩

/-- A fault one byte into the rest of the text, or at the end of an empty one. -/
def Fault.within (cause : Cause) (rest : List Char) : Fault :=
  ⟨cause, Text.byteLength rest - 1⟩

/-- A line, counted from one, and a number of bytes into it. -/
structure Position where
  line : Nat
  column : Nat
  deriving DecidableEq, Repr

namespace Position

/-- The position reached from another one over some bytes of a text. -/
def advance (p : Position) : (bytes : Nat) → List Char → Position
  | 0, _ => p
  | _, [] => p
  | bytes, c :: rest =>
    if c = '\n' then advance ⟨p.line + 1, 0⟩ (bytes - 1) rest
    else advance ⟨p.line, p.column + min bytes c.utf8Size⟩ (bytes - c.utf8Size) rest

/-- The position behind the first `bytes` bytes of a text. -/
def behind (bytes : Nat) (text : List Char) : Position :=
  advance ⟨1, 0⟩ bytes text

/-- The bytes of the first lines of a text, with their line ends. -/
def lineStart : (lines : Nat) → List Char → Nat
  | 0, _ => 0
  | _, [] => 0
  | lines + 1, c :: rest =>
    c.utf8Size + lineStart (if c = '\n' then lines else lines + 1) rest

/-- The start of the line and the bytes in front of the column, wherever the line and the text
end. -/
def offsetSum (p : Position) (text : List Char) : Nat :=
  lineStart (p.line - 1) text + (p.column - 1)

/-- The byte just before a position, as an offset into the text and never behind its end. The sum is
a word: within the text it always fits, and only a column near the limit makes it start again at
zero. (A program that checks its sums ends there instead.) -/
def offsetIn (p : Position) (text : List Char) : Nat :=
  let sum := p.offsetSum text
  let length := Text.byteLength text
  if sum ≤ length then sum else min (sum % Text.lengthLimit) length

end Position

/-- Where a fault lies in its text. -/
def Fault.position (f : Fault) (text : List Char) : Position :=
  Position.behind (Text.byteLength text - f.behind) text

/-- The cause in words, and the position. -/
def Fault.message (f : Fault) (text : List Char) : String :=
  let p := f.position text
  s!"{f.cause.text} at line {p.line} column {p.column}"

end Json

end Choreography
