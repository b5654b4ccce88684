import Choreography.Toml.Literal

/-!
# Lexemes of TOML

`Toml.lexemes?` cuts a document into lexemes, which are the same wherever they stand: a mark, a run
of blanks, a comment, a line end, a string with its quotes, or a run of other characters. Strings
are not looked into. There are no lexemes if a comment holds a control character, or a carriage
return stands on its own.
-/

namespace Choreography

namespace Toml

/-- A stretch of a document. -/
inductive Lexeme where
  | dot
  | equals
  | comma
  | openBracket
  | closeBracket
  | openBrace
  | closeBrace
  /-- Spaces and tabs. -/
  | blanks (text : List Char)
  /-- A comment up to the end of its line. -/
  | comment
  | lineEnd
  /-- A string with its quotes. The closing ones may be missing. -/
  | quoted (text : List Char)
  /-- Other characters. Quotes may stand among them, but not in front. -/
  | bare (text : List Char)
  deriving DecidableEq, Repr

/-- The lexeme that a mark is. -/
def mark? : Char → Option Lexeme
  | '.' => some .dot
  | '=' => some .equals
  | ',' => some .comma
  | '[' => some .openBracket
  | ']' => some .closeBracket
  | '\x7b' => some .openBrace
  | '\x7d' => some .closeBrace
  | _ => none

/-! ## Strings -/

/-- Splits off the rest of a string on one line, closing quote included. Within double quotes, a
quote or backslash behind a backslash does not count. Without a closing quote, the string ends with
the line. -/
def splitLine (quote : Char) : List Char → List Char × List Char
  | [] => ([], [])
  | '\\' :: c :: rest =>
    if quote = '"' && (c = '"' || c = '\\') then
      let (cs, rest) := splitLine quote rest
      ('\\' :: c :: cs, rest)
    else
      let (cs, rest) := splitLine quote (c :: rest)
      ('\\' :: cs, rest)
  | c :: rest =>
    if c = quote then ([c], rest)
    else if c = '\n' then ([], c :: rest)
    else
      let (cs, rest) := splitLine quote rest
      (c :: cs, rest)

/-- Splits off the rest of a string on several lines, closing quotes included: three of them, and
up to two more, which belong to the string. -/
def splitLines (quote : Char) : List Char → List Char × List Char
  | [] => ([], [])
  | '\\' :: c :: rest =>
    if quote = '"' && (c = '"' || c = '\\') then
      let (cs, rest) := splitLines quote rest
      ('\\' :: c :: cs, rest)
    else
      let (cs, rest) := splitLines quote (c :: rest)
      ('\\' :: cs, rest)
  | c :: rest =>
    let quotes := (c :: rest).takeWhile (· = quote)
    if 3 ≤ quotes.length then
      let n := min quotes.length 5
      ((c :: rest).take n, (c :: rest).drop n)
    else
      let (cs, rest) := splitLines quote rest
      (c :: cs, rest)

/-- Splits off a string, behind its opening quote. -/
def splitQuoted (quote : Char) (s : List Char) : List Char × List Char :=
  if [quote, quote].isPrefixOf s then
    let (cs, rest) := splitLines quote (s.drop 2)
    (quote :: quote :: quote :: cs, rest)
  else
    let (cs, rest) := splitLine quote s
    (quote :: cs, rest)

/-! ## Documents -/

/-- A character that ends a run of other characters. -/
def isSeparator (c : Char) : Bool :=
  (mark? c).isSome || isBlank c || c ∈ ['#', '\r', '\n']

/-- The text behind a comment, which goes up to the end of its line. -/
def behindComment? (s : List Char) : Option (List Char) :=
  let rest := s.dropWhile isOrdinary
  if rest.isEmpty || (lineEnd? rest).isSome then some rest else none

/-- The first lexeme of a text that begins with `c`, and the text behind it. -/
def lexeme? (c : Char) (rest : List Char) : Option (Lexeme × List Char) :=
  match mark? c with
  | some mark => some (mark, rest)
  | none =>
    if isBlank c then some (.blanks (c :: rest.takeWhile isBlank), rest.dropWhile isBlank)
    else if c = '#' then (behindComment? rest).map fun rest => (.comment, rest)
    else if c = '\r' || c = '\n' then (lineEnd? (c :: rest)).map fun rest => (.lineEnd, rest)
    else if c = '"' || c = '\'' then
      let (text, rest) := splitQuoted c rest
      some (.quoted text, rest)
    else
      let isPart (c : Char) : Bool := !isSeparator c
      some (.bare (c :: rest.takeWhile isPart), rest.dropWhile isPart)

/-- Cuts a text into lexemes. Each of them uses up at least one character, so a `bound` as long as
the text is never too short. -/
def cut? : (bound : List Char) → List Char → Option (List Lexeme)
  | _, [] => some []
  | [], _ :: _ => none
  | _ :: bound, c :: rest => do
    let (lexeme, rest) ← lexeme? c rest
    return lexeme :: (← cut? bound rest)

/-- The lexemes of a document. A byte order mark in front is skipped. -/
def lexemes? (text : String) : Option (List Lexeme) :=
  match text.toList with
  | '\uFEFF' :: rest => cut? rest rest
  | s => cut? s s

end Toml

end Choreography
