import Choreography.Toml.Statement

/-!
# Documents of TOML

`Toml.parse` reads a document: its statements are put into tables one after the other, and each
table into the document when its statements have come to an end. If that fails, the `Fault` is the
first one, a fault of form anywhere in the text before all others.
-/

namespace Choreography

namespace Toml

/-- Why a text cannot be read. -/
inductive Fault where
  /-- It is not TOML, or does not say what it should. -/
  | malformed
  /-- A dotted key has too many parts. -/
  | keyTooLong
  deriving DecidableEq, Repr

/-- What is added to the report of a fault. -/
def Fault.detail : Fault → String
  | .malformed => ""
  | .keyTooLong => ": recursion limit\n"

/-- The value, or a malformed text if there is none. -/
def wellFormed {α : Type} : Option α → Except Fault α
  | some a => .ok a
  | none => .error .malformed

/-! ## Keys and values -/

/-- A character of a key without quotes. -/
def isBare (c : Char) : Bool := c.isAlphanum || c = '_' || c = '-'

/-- The name of one part of a key: a string on one line, or letters, digits, underscores and hyphens
without quotes. -/
def keyPart? (text : List Char) : Option String :=
  match text with
  | [] => none
  | '"' :: _ | '\'' :: _ => if hasLines text then none else string? text
  | _ => if text.all isBare then some (String.ofList text) else none

/-- The most parts that a dotted key has. -/
def maxKeyParts : Nat := 80

/-- The names of a key: all but the last, and the last. Of a key with too many parts, no more are
looked at than there may be. -/
def Key.names (key : Key) : Except Fault (List String × String) := do
  let path ← wellFormed ((key.path.take maxKeyParts).mapM keyPart?)
  if key.path.length < maxKeyParts then return (path, ← wellFormed (keyPart? key.last))
  else throw .keyTooLong

mutual

/-- The value of an item. -/
def Item.value : Item → Except Fault Value
  | .literal text => wellFormed (literal? text)
  | .list items => do return .list (← valuesOf items)
  | .table assignments => do return .table .inline (← entriesOf [] assignments)

/-- The values of items. -/
def valuesOf : List Item → Except Fault (List Value)
  | [] => .ok []
  | item :: rest => do
    let v ← item.value
    return v :: (← valuesOf rest)

/-- The entries with those of further assignments. -/
def entriesOf (entries : Entries) : List (Key × Item) → Except Fault Entries
  | [] => .ok entries
  | (key, item) :: rest => do
    let (path, last) ← key.names
    let v ← item.value
    entriesOf (← wellFormed (assign? last v path entries)) rest

end

/-! ## Documents -/

/-- A header that has been read. -/
structure Header where
  path : List String
  last : String
  /-- It stands in double brackets. -/
  isElement : Bool
  deriving DecidableEq, Repr

/-- A document that is being read. -/
structure Document where
  /-- The tables whose statements have all been read. -/
  entries : Entries := []
  /-- The header that the statements are beneath. -/
  header : Option Header := none
  /-- What has been assigned beneath it. -/
  body : Entries := []

namespace Document

/-- All entries, those beneath the last header included. -/
def close (d : Document) : Except Fault Entries :=
  match d.header with
  | none => .ok d.body
  | some header =>
    let change (entries : Entries) : Option Entries :=
      if header.isElement then putElement? header.last d.body entries
      else some (putTable header.last d.body entries)
    wellFormed (atHeader? change header.path d.entries)

/-- The document with one more header. Only the place of a single table is looked at here; one of
several tables finds its place when all its statements have been read. -/
def start (isElement : Bool) (key : Key) (d : Document) : Except Fault Document := do
  let entries ← d.close
  let (path, last) ← key.names
  let body ←
    if isElement then pure []
    else wellFormed ((entriesAt? path entries).bind (opened? last))
  return { entries, header := some { path, last, isElement }, body }

/-- The document with one more statement. -/
def add (d : Document) : Statement → Except Fault Document
  | .table key => d.start false key
  | .element key => d.start true key
  | .assignment key item => do
    let (path, last) ← key.names
    let v ← item.value
    return { d with body := ← wellFormed (assign? last v path d.body) }

end Document

/-- The entries of a document. -/
def parse (text : String) : Except Fault Entries := do
  let statements ← wellFormed (statements? text)
  (← statements.foldlM Document.add {}).close

end Toml

end Choreography
