import Choreography.Json.Skip

/-!
# Reading values of a known type

What a reader accepts depends on the type that it reads. A value of another kind is refused with
a description of what was found; a record can be written as an object, with its keys in any order,
or as a list of its fields in order.

A refusal of a record as a whole (a field that is missing or repeated, a list that is too short)
is placed where the record ends: reading first tries to close its bracket.
-/

namespace Choreography

namespace Json

/-! ## Single values -/

/-- The fault of a value that is not of the expected kind. A scalar is read before it is refused,
so its own faults come first; a list or an object is refused at its bracket. -/
def wrongKind (expected : String) (s : List Char) : Fault :=
  let refuse (found : Found) (rest : List Char) : Fault :=
    .before (.wrongType found expected) rest
  let literal (letters : String) (found : Found) (rest : List Char) : Fault :=
    match readLetters letters.toList rest with
    | .ok rest => refuse found rest
    | .error f => f
  let number (negative : Bool) (rest : List Char) : Fault :=
    match Number.read negative rest with
    | .ok (.integer n, rest) => refuse (.integer n) rest
    | .ok (.float negative magnitude, rest) => refuse (.float negative magnitude) rest
    | .error f => f
  match s with
  | 'n' :: rest => literal "ull" .null rest
  | 't' :: rest => literal "rue" (.boolean true) rest
  | 'f' :: rest => literal "alse" (.boolean false) rest
  | '-' :: rest => number true rest
  | '"' :: rest =>
    match readStringBody rest with
    | .ok (text, rest) => refuse (.string text) rest
    | .error f => f
  | '[' :: _ => refuse .sequence s
  | '\x7b' :: _ => refuse .map s
  | c :: _ => if c.isDigit then number false s else .within .valueDue s
  | [] => .within .endInValue []

/-- Reads a string. -/
def readString (expected : String) : Reader String := fun s =>
  match skipBlanks s with
  | '"' :: rest => readStringBody rest
  | [] => .error (.within .endInValue [])
  | s => .error (wrongKind expected s)

/-- Reads the word `null`. -/
def readNull (expected : String) (s : List Char) : Except Fault (List Char) :=
  match skipBlanks s with
  | 'n' :: rest => readLetters "ull".toList rest
  | [] => .error (.within .endInValue [])
  | s => .error (wrongKind expected s)

/-- Reads the name of one of some variants, behind its opening quote. -/
def readVariantName {α : Type} (variants : List (String × α)) : Reader α := fun s => do
  let (name, rest) ← readStringBody s
  match variants.lookup name with
  | some a => return (a, rest)
  | none => throw (.before (.unknownVariant name (variants.map (·.1))) rest)

/-- Reads one of some named variants: its name, or an object with the name as its only key and
`null` as the value. -/
def readVariant {α : Type} (variants : List (String × α)) : Reader α := fun s =>
  match skipBlanks s with
  | [] => .error (.within .endInValue [])
  | '"' :: rest => readVariantName variants rest
  | '\x7b' :: rest =>
    match skipBlanks rest with
    | [] => .error (.within .endInObject [])
    | '"' :: rest => do
      let (a, rest) ← readVariantName variants rest
      let rest ← readNull "unit" (← readColon rest)
      match skipBlanks rest with
      | '\x7d' :: rest => return (a, rest)
      | [] => throw (.before .endInObject [])
      | rest => throw (.before .valueDue rest)
    | '\x7d' :: rest => .error (.within .valueDue ('\x7d' :: rest))
    | rest => .error (.within .keyDue rest)
  | s => .error (.within .valueDue s)

/-! ## Lists -/

/-- Whether a bracket holds another member. -/
inductive Next where
  /-- It ends here. -/
  | none (rest : List Char)
  | member (rest : List Char)

/-- Looks for the next member of a list. All but the first follow a comma. -/
def nextItem (isFirst : Bool) (s : List Char) : Except Fault Next :=
  match skipBlanks s with
  | [] => .error (.within .endInList [])
  | ']' :: rest => .ok (.none (']' :: rest))
  | c :: rest =>
    if isFirst then .ok (.member (c :: rest))
    else if c = ',' then
      match skipBlanks rest with
      | [] => .error (.within .endInValue [])
      | ']' :: rest => .error (.within .trailingComma (']' :: rest))
      | rest => .ok (.member rest)
    else .error (.within .listCommaDue (c :: rest))

/-- Closes a list. Another member is one too many. -/
def closeList (s : List Char) : Except Fault (List Char) :=
  match skipBlanks s with
  | ']' :: rest => .ok rest
  | ',' :: rest =>
    match skipBlanks rest with
    | ']' :: rest => .error (.within .trailingComma (']' :: rest))
    | rest => .error (.within .trailingCharacters rest)
  | [] => .error (.within .endInList [])
  | rest => .error (.within .trailingCharacters rest)

/-- Reads the members of a list. Each of them uses up at least one character of the text, so
a `bound` as long as the text is never too short. -/
def readItems {α : Type} (item : Reader α) :
    (bound : List Char) → (isFirst : Bool) → Reader (List α)
  | [], _, _ => .error (.within .endInList [])
  | _ :: bound, isFirst, s => do
    match ← nextItem isFirst s with
    | .none rest => return ([], rest)
    | .member rest =>
      let (a, rest) ← item rest
      let (more, rest) ← readItems item bound false rest
      return (a :: more, rest)

/-- Reads a list. -/
def readList {α : Type} (expected : String) (item : Reader α) : Reader (List α) := fun s =>
  match skipBlanks s with
  | '[' :: rest => do
    let (items, rest) ← readItems item rest true rest
    return (items, ← closeList rest)
  | [] => .error (.within .endInValue [])
  | s => .error (wrongKind expected s)

/-! ## Records -/

/-- A field of a record that is being filled in. -/
structure RecordField (α : Type) where
  key : String
  required : Bool
  /-- Reads the value and puts it into the record. -/
  read : α → Reader α

/-- How a record is read. -/
structure Shape (α : Type) where
  /-- What the record is called in messages. -/
  title : String
  /-- The record with every field left out. -/
  blank : α
  /-- In the order of the list form. -/
  fields : List (RecordField α)

/-- The members of a record, read up to its end, or what is wrong with the record as a whole. -/
inductive Filled (α : Type) where
  | complete (a : α) (rest : List Char)
  | refused (cause : Cause) (rest : List Char)

namespace Shape

variable {α : Type}

/-- The length that the list form should have, in words. -/
def lengthText (shape : Shape α) : String :=
  let n := shape.fields.length
  s!"{shape.title} with {n} element" ++ (if n = 1 then "" else "s")

/-- Fills in fields from the list form. The list may end early if no field after that is
required. -/
def readListed (shape : Shape α) :
    (fields : List (RecordField α)) → (index : Nat) → α → List Char → Except Fault (Filled α)
  | [], _, a, s => .ok (.complete a s)
  | field :: fields, index, a, s => do
    match ← nextItem (index = 0) s with
    | .member rest =>
      let (a, rest) ← field.read a rest
      shape.readListed fields (index + 1) a rest
    | .none rest =>
      if field.required then return .refused (.wrongLength index shape.lengthText) rest
      else shape.readListed fields index a rest

/-- Looks for the next key of an object, behind its opening quote. -/
def nextKey (isFirst : Bool) (s : List Char) : Except Fault Next :=
  match skipBlanks s with
  | [] => .error (.within .endInObject [])
  | '\x7d' :: rest => .ok (.none ('\x7d' :: rest))
  | c :: rest =>
    if isFirst then
      if c = '"' then .ok (.member rest) else .error (.within .keyDue (c :: rest))
    else if c = ',' then
      match skipBlanks rest with
      | '"' :: rest => .ok (.member rest)
      | '\x7d' :: rest => .error (.within .trailingComma ('\x7d' :: rest))
      | [] => .error (.within .endInValue [])
      | rest => .error (.within .keyDue rest)
    else .error (.within .objectCommaDue (c :: rest))

/-- Fills in fields from the object form. Keys that the record does not have are skipped. Each key
uses up at least one character of the text, so a `bound` as long as the text is never too short. -/
def readKeyed (shape : Shape α) :
    (bound : List Char) → (isFirst : Bool) → (seen : List String) → α → List Char →
      Except Fault (Filled α)
  | [], _, _, _, _ => .error (.within .endInObject [])
  | _ :: bound, isFirst, seen, a, s => do
    match ← nextKey isFirst s with
    | .none rest =>
      match shape.fields.find? fun field => field.required && field.key ∉ seen with
      | some field => return .refused (.missingField field.key) rest
      | none => return .complete a rest
    | .member rest =>
      let (key, rest) ← readStringBody rest
      match shape.fields.find? (·.key = key) with
      | none =>
        let rest ← skipValue (← readColon rest)
        shape.readKeyed bound false seen a rest
      | some field =>
        if key ∈ seen then return .refused (.repeatedField key) rest
        else
          let (a, rest) ← field.read a (← readColon rest)
          shape.readKeyed bound false (key :: seen) a rest

/-- The text behind a refused record: behind its closing bracket if that comes next. A list may
also have another member there, then it is the text behind the comma. -/
def afterRefused (b : Bracket) (s : List Char) : List Char :=
  match skipBlanks s with
  | [] => []
  | c :: rest =>
    if c = b.close then rest
    else if b = .list && c = ',' then skipBlanks rest
    else c :: rest

/-- Reads a record in either form. -/
def read (shape : Shape α) : Reader α := fun s =>
  match skipBlanks s with
  | '[' :: rest => do
    match ← shape.readListed shape.fields 0 shape.blank rest with
    | .complete a rest => return (a, ← closeList rest)
    | .refused cause rest => throw (.before cause (afterRefused .list rest))
  | '\x7b' :: rest => do
    match ← shape.readKeyed rest true [] shape.blank rest with
    | .complete a rest => return (a, rest.drop 1)
    | .refused cause rest => throw (.before cause (afterRefused .object rest))
  | [] => .error (.within .endInValue [])
  | s => .error (wrongKind shape.title s)

end Shape

/-! ## Whole texts -/

/-- Only blanks are left. -/
def readEnd (s : List Char) : Except Fault Unit :=
  match skipBlanks s with
  | [] => .ok ()
  | rest => .error (.within .trailingCharacters rest)

/-- Reads a text that holds one value. -/
def decode {α : Type} (read : Reader α) (text : List Char) : Except Fault α := do
  let (a, rest) ← read text
  readEnd rest
  return a

end Json

end Choreography
