import Choreography.Json.Lexeme

/-!
# Skipping values that nobody asked for

The value of an unknown key is skipped. Its form is checked, but neither the size of its numbers
nor the pairing of its surrogate escapes. Open brackets are kept on a list, so nesting is not
limited.
-/

namespace Choreography

namespace Json

/-- An open bracket. -/
inductive Bracket where
  | list
  | object
  deriving DecidableEq, Repr

namespace Bracket

/-- The character that closes the bracket. -/
def close : Bracket → Char
  | .list => ']'
  | .object => '\x7d'

/-- The text ends within the bracket. -/
def endCause : Bracket → Cause
  | .list => .endInList
  | .object => .endInObject

/-- Neither a comma nor the end of the bracket follows a member. -/
def commaCause : Bracket → Cause
  | .list => .listCommaDue
  | .object => .objectCommaDue

end Bracket

/-- Reads the colon behind a key. -/
def readColon (s : List Char) : Except Fault (List Char) :=
  match skipBlanks s with
  | ':' :: rest => .ok rest
  | [] => .error (.within .endInObject [])
  | rest => .error (.within .colonDue rest)

/-- Skips a key and its colon. -/
def skipKey (s : List Char) : Except Fault (List Char) :=
  match skipBlanks s with
  | '"' :: rest => do readColon (← skipStringBody rest)
  | [] => .error (.within .endInObject [])
  | rest => .error (.within .keyDue rest)

/-- What a skipped value opens with. -/
inductive Opening where
  /-- The value is over. -/
  | scalar (rest : List Char)
  | bracket (b : Bracket) (rest : List Char)

/-- Skips a scalar or an opening bracket. -/
def skipOpening (s : List Char) : Except Fault Opening :=
  match skipBlanks s with
  | [] => .error (.within .endInValue [])
  | 'n' :: rest => do return .scalar (← readLetters "ull".toList rest)
  | 't' :: rest => do return .scalar (← readLetters "rue".toList rest)
  | 'f' :: rest => do return .scalar (← readLetters "alse".toList rest)
  | '-' :: rest => do return .scalar (← Number.skip rest)
  | '"' :: rest => do return .scalar (← skipStringBody rest)
  | '[' :: rest => .ok (.bracket .list rest)
  | '\x7b' :: rest => .ok (.bracket .object rest)
  | c :: rest =>
    if c.isDigit then do return .scalar (← Number.skip (c :: rest))
    else .error (.within .valueDue (c :: rest))

/-- Skips a member of a bracket, or its opening bracket. -/
def skipMember (b : Bracket) (s : List Char) : Except Fault Opening := do
  match b with
  | .list => skipOpening s
  | .object => skipOpening (← skipKey s)

/-- Skips the members of the open brackets, innermost first, up to the end of the outermost one.
Each step uses up at least one character of the text, so a `bound` as long as the text is never too
short. -/
def skipMembers :
    (bound : List Char) → (isFirst : Bool) → List Bracket → List Char → Except Fault (List Char)
  | _, _, [], s => .ok s
  | [], _, b :: _, _ => .error (.within b.endCause [])
  | _ :: bound, isFirst, b :: outer, s =>
    match skipBlanks s with
    | [] => .error (.within b.endCause [])
    | c :: rest =>
      if c = b.close then skipMembers bound false outer rest
      else if !isFirst && c ≠ ',' then .error (.within b.commaCause (c :: rest))
      else do
        match ← skipMember b (if isFirst then c :: rest else rest) with
        | .scalar rest => skipMembers bound false (b :: outer) rest
        | .bracket inner rest => skipMembers bound true (inner :: b :: outer) rest

/-- Skips a value. -/
def skipValue (s : List Char) : Except Fault (List Char) := do
  match ← skipOpening s with
  | .scalar rest => return rest
  | .bracket b rest => skipMembers rest true [b] rest

end Json

end Choreography
