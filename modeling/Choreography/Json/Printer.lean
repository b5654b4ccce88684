/-!
# Writing JSON

Strings are written with the shortest escapes, and only where the format demands one: quotes,
backslashes and characters below the space. Brackets are written over several lines, two blanks
for each level, unless they are empty.
-/

namespace Choreography

namespace Json

/-- One hexadecimal digit in lower case. -/
def hexChar (n : Nat) : Char :=
  Nat.digitChar (n % 16)

/-- The spelling of one character within a string. -/
def escape (c : Char) : List Char :=
  if c = '"' then ['\\', '"']
  else if c = '\\' then ['\\', '\\']
  else if c = '\x08' then ['\\', 'b']
  else if c = '\x0c' then ['\\', 'f']
  else if c = '\n' then ['\\', 'n']
  else if c = '\r' then ['\\', 'r']
  else if c = '\t' then ['\\', 't']
  else if c < ' ' then ['\\', 'u', '0', '0', hexChar (c.toNat / 16), hexChar c.toNat]
  else [c]

/-- A text as a JSON string. -/
def quoted (cs : List Char) : List Char :=
  '"' :: cs.flatMap escape ++ ['"']

/-- A text as a JSON string. -/
def quote (s : String) : String :=
  String.ofList (quoted s.toList)

/-- A new line at some depth of nesting. -/
def newLine (depth : Nat) : List Char :=
  '\n' :: List.replicate (2 * depth) ' '

/-- Members one below the other, with commas between them. -/
def printMembers (depth : Nat) : List (List Char) → List Char
  | [] => []
  | [m] => newLine depth ++ m
  | m :: more => newLine depth ++ m ++ ',' :: printMembers depth more

/-- A bracket around members that are printed one level deeper. -/
def printBracket (opening closing : Char) (depth : Nat) (members : List (List Char)) : List Char :=
  if members.isEmpty then [opening, closing]
  else opening :: printMembers (depth + 1) members ++ newLine depth ++ [closing]

/-- A list of printed items. -/
def printList (depth : Nat) (items : List (List Char)) : List Char :=
  printBracket '[' ']' depth items

/-- An object of keys and printed values. -/
def printObject (depth : Nat) (members : List (String × List Char)) : List Char :=
  printBracket '\x7b' '\x7d' depth
    (members.map fun (key, value) => quoted key.toList ++ ':' :: ' ' :: value)

end Json

end Choreography
