import Choreography.Toml.Lexeme

/-!
# Statements of TOML

`Toml.statements?` puts the lexemes of a document of TOML 1.1 together to statements, or answers
with nothing if its brackets and separators do not fit together. The texts of keys and literals stay
as they are written: whether they stand for anything is not looked at here. Where a value or a part
of a key is missing, its text is empty, and what stands in its place shows whether that is a fault
of form: the end of a line or a closing brace is none.

Readers take the lexemes from the front and answer with what they read and the rest.
-/

namespace Choreography

namespace Toml

/-- Reads from the front of a document. -/
abbrev Reader (α : Type) := List Lexeme → Option (α × List Lexeme)

/-- A dotted key as it is written. -/
structure Key where
  /-- All parts but the last. -/
  path : List (List Char)
  last : List Char
  deriving DecidableEq, Repr

/-- A value as it is written. A missing one counts as a literal without text. -/
inductive Item where
  | literal (text : List Char)
  | list (items : List Item)
  | table (assignments : List (Key × Item))

/-- A literal without text. -/
def Item.missing : Item := .literal []

/-- A statement. -/
inductive Statement where
  /-- `[key]` -/
  | table (key : Key)
  /-- `[[key]]` -/
  | element (key : Key)
  /-- `key = item` -/
  | assignment (key : Key) (item : Item)

/-! ## Blanks, comments and line ends -/

/-- Spaces and tabs. -/
def Lexeme.isBlanks : Lexeme → Bool
  | .blanks _ => true
  | _ => false

/-- Blanks, comments and line ends. -/
def Lexeme.isSpace : Lexeme → Bool
  | .blanks _ | .comment | .lineEnd => true
  | _ => false

/-- Comments and line ends, behind which a line says nothing. -/
def Lexeme.endsLine : Lexeme → Bool
  | .comment | .lineEnd => true
  | _ => false

/-- The lexemes behind the blanks in front. -/
def skipBlanks (s : List Lexeme) : List Lexeme := s.dropWhile Lexeme.isBlanks

/-- The lexemes behind all blanks, comments and line ends in front. -/
def skipSpace (s : List Lexeme) : List Lexeme := s.dropWhile Lexeme.isSpace

/-- The lexemes behind the end of a line, if the line says nothing more. -/
def nextLine? (s : List Lexeme) : Option (List Lexeme) :=
  match skipBlanks s with
  | [] | [.comment] => some []
  | .lineEnd :: rest | .comment :: .lineEnd :: rest => some rest
  | _ => none

/-! ## Keys -/

/-- Splits off one part of a key. Its text is empty if there is none. -/
def splitKeyPart : List Lexeme → List Char × List Lexeme
  | .quoted text :: rest | .bare text :: rest => (text, rest)
  | s => ([], s)

/-- Splits off a dotted key, blanks around its parts included. Each part but the last uses up a
dot, so a `bound` as long as the document is never too short. -/
def splitKey : (bound : List Lexeme) → List Lexeme → Key × List Lexeme
  | [], s => (⟨[], []⟩, s)
  | _ :: bound, s =>
    let (part, rest) := splitKeyPart (skipBlanks s)
    match skipBlanks rest with
    | .dot :: rest =>
      let (key, rest) := splitKey bound rest
      (⟨part :: key.path, key.last⟩, rest)
    | rest => (⟨[], part⟩, rest)

/-! ## Values -/

/-- Splits off a literal without quotes: texts and dots, and the blanks between them. -/
def splitWords : List Lexeme → List Char × List Lexeme
  | .bare text :: rest =>
    let (more, rest) := splitWords rest
    (text ++ more, rest)
  | .dot :: rest =>
    let (more, rest) := splitWords rest
    ('.' :: more, rest)
  | .blanks text :: rest =>
    match splitWords rest with
    | ([], _) => ([], .blanks text :: rest)
    | (more, rest) => (text ++ more, rest)
  | s => ([], s)

/-- Reads a literal. -/
def readLiteral : Reader Item
  | .quoted text :: rest => some (.literal text, rest)
  | s =>
    match splitWords s with
    | ([], _) => none
    | (text, rest) => some (.literal text, rest)

/-- Reads the items of a list behind its bracket, up to the closing one. Each of them uses up at
least one lexeme, so a `bound` as long as the document is never too short. -/
def readItems (item : Reader Item) : (bound : List Lexeme) → Reader (List Item)
  | [], _ => none
  | _ :: bound, s =>
    match skipSpace s with
    | .closeBracket :: rest => some ([], rest)
    | s => do
      let (first, rest) ← item s
      match skipSpace rest with
      | .closeBracket :: rest => return ([first], rest)
      | .comma :: rest =>
        let (items, rest) ← readItems item bound rest
        return (first :: items, rest)
      | _ => none

/-- Reads what belongs to a key in an inline table: the sign and the value. In front of the closing
brace they may be missing. -/
def readBinding (item : Reader Item) : Reader Item
  | .equals :: rest =>
    match skipSpace rest with
    | .closeBrace :: rest => some (.missing, .closeBrace :: rest)
    | rest => item rest
  | .closeBrace :: rest => some (.missing, .closeBrace :: rest)
  | _ => none

/-- Reads the assignments of an inline table behind its brace, up to the closing one. Lines may end
anywhere but within a key. -/
def readAssignments (item : Reader Item) : (bound : List Lexeme) → Reader (List (Key × Item))
  | [], _ => none
  | _ :: bound, s =>
    match skipSpace s with
    | .closeBrace :: rest => some ([], rest)
    | s => do
      let (key, rest) := splitKey s s
      let (value, rest) ← readBinding item (skipSpace rest)
      match skipSpace rest with
      | .closeBrace :: rest => return ([(key, value)], rest)
      | .comma :: rest =>
        let (assignments, rest) ← readAssignments item bound rest
        return ((key, value) :: assignments, rest)
      | _ => none

/-- Brackets in brackets go no deeper than this. -/
def maxDepth : Nat := 80

/-- Reads a value with at most so many brackets in brackets. -/
def readItem : (depth : Nat) → Reader Item
  | 0 => readLiteral
  | depth + 1 => fun s =>
    match s with
    | .openBracket :: rest => do
      let (items, rest) ← readItems (readItem depth) rest rest
      return (.list items, rest)
    | .openBrace :: rest => do
      let (assignments, rest) ← readAssignments (readItem depth) rest rest
      return (.table assignments, rest)
    | _ => readLiteral s

/-! ## Statements -/

/-- Reads the key of a header and its closing brackets. If the end of the key is missing and the
brackets as well, the rest of the line is skipped. -/
def readHeader (closing : List Lexeme) : Reader Key := fun s =>
  let (key, rest) := splitKey s s
  if closing.isPrefixOf rest then some (key, rest.drop closing.length)
  else if key.last.isEmpty && rest.head? ≠ some .closeBracket then
    some (key, rest.dropWhile (!·.endsLine))
  else none

/-- Reads the value of an assignment. It may be missing at the end of a line. -/
def readValue : Reader Item := fun s =>
  let s := skipBlanks s
  if s.head?.all Lexeme.endsLine then some (.missing, s) else readItem maxDepth s

/-- Reads a statement without the end of its line. -/
def readStatement : Reader Statement := fun s =>
  match s with
  | .openBracket :: .openBracket :: rest => do
    let (key, rest) ← readHeader [.closeBracket, .closeBracket] rest
    return (.element key, rest)
  | .openBracket :: rest => do
    let (key, rest) ← readHeader [.closeBracket] rest
    return (.table key, rest)
  | _ =>
    let (key, rest) := splitKey s s
    match rest with
    | .equals :: rest => do
      let (item, rest) ← readValue rest
      return (.assignment key item, rest)
    | _ => none

/-- Reads statements, each on a line of its own. Each of them uses up at least one lexeme, so
a `bound` as long as the document is never too short. -/
def readStatements : (bound : List Lexeme) → List Lexeme → Option (List Statement)
  | [], _ => some []
  | _ :: bound, s =>
    match skipSpace s with
    | [] => some []
    | s => do
      let (statement, rest) ← readStatement s
      return statement :: (← readStatements bound (← nextLine? rest))

/-- The statements of a document. -/
def statements? (text : String) : Option (List Statement) := do
  let s ← lexemes? text
  readStatements s s

end Toml

end Choreography
