import Choreography.Database
import Choreography.Json.Printer
import Choreography.Json.Record
import Choreography.Storage

/-!
# Snapshots: the database as a JSON text

A snapshot lists the environments and diagrams. `Snapshot.print` writes the canonical text: fields
in a fixed order, two blanks a level, a line feed at the end. `Snapshot.parse` reads any spelling
of it: first the form, where a fault has a position in the text, then the rules of the model.
-/

namespace Choreography

/-- Why a snapshot could not be loaded. -/
inductive LoadError where
  | unreadable (error : StorageError)
  /-- The text does not have the form of a snapshot. The detail names the position as well. -/
  | malformed (detail : String) (position : Json.Position)
  | invalid (violation : ModelError)
  deriving DecidableEq, Repr

namespace LoadError

/-- The sentence shown to the user. -/
def message : LoadError → String
  | .unreadable error => s!"failed to read snapshot: {error.text}"
  | .malformed detail position =>
    s!"snapshot is not valid JSON at line {position.line}, column {position.column}: {detail}"
  | .invalid violation => s!"snapshot violates the diagram model: {violation.message}"

/-- Where in the source the text is malformed, as a byte offset. -/
def offsetIn? (source : String) : LoadError → Option Nat
  | .malformed _ position => some (position.offsetIn source.toList)
  | _ => none

end LoadError

namespace Snapshot

open Json

/-! ## Reading -/

/-- A field whose value is read on its own and then put into the record. -/
def field {α β : Type} (key : String) (required : Bool) (read : Reader β) (put : α → β → α) :
    RecordField α where
  key
  required
  read a s := do
    let (b, rest) ← read s
    return (put a b, rest)

/-- Reads a text. -/
def readText : Reader String := readString "a string"

/-- Reads an identifier. -/
def readIdentifier {kind : Kind} : Reader (Identifier kind) := fun s => do
  let (text, rest) ← readText s
  return (⟨text⟩, rest)

/-- Reads attached environments. A repeated one counts once. -/
def readAttached : Reader (OrderedSet EnvironmentId) := fun s => do
  let (ids, rest) ← readList "a set" readIdentifier s
  return (OrderedSet.ofList ids, rest)

/-- `id`, `name` -/
def environmentShape : Shape Environment where
  title := "struct Environment"
  blank := { id := ⟨""⟩, name := "" }
  fields :=
    [ field "id" true readIdentifier fun e id => { e with id }
    , field "name" true readText fun e name => { e with name } ]

/-- `from`, `to`, `event` -/
def stepShape : Shape Step where
  title := "struct Step"
  blank := { sender := ⟨""⟩, receiver := ⟨""⟩, event := "" }
  fields :=
    [ field "from" true readIdentifier fun s sender => { s with sender }
    , field "to" true readIdentifier fun s receiver => { s with receiver }
    , field "event" true readText fun s event => { s with event } ]

/-- `id`, `title`, and optionally `environments` and `steps` -/
def diagramShape : Shape Diagram where
  title := "struct SequenceDiagram"
  blank := { id := ⟨""⟩, title := "" }
  fields :=
    [ field "id" true readIdentifier fun d id => { d with id }
    , field "title" true readText fun d title => { d with title }
    , field "environments" false readAttached fun d environments => { d with environments }
    , field "steps" false (readList "a sequence" stepShape.read) fun d steps => { d with steps } ]

/-- `environments` and `diagrams`, both optional -/
def contentsShape : Shape Contents where
  title := "struct RawDatabase"
  blank := {}
  fields :=
    [ field "environments" false (readList "a sequence" environmentShape.read)
        fun c environments => { c with environments }
    , field "diagrams" false (readList "a sequence" diagramShape.read)
        fun c diagrams => { c with diagrams } ]

/-- The error of a fault in a text. -/
def malformed (text : List Char) (f : Fault) : LoadError :=
  .malformed (f.message text) (f.position text)

/-- Reads what a snapshot lists, without asking for the rules of the model. -/
def parseContents (source : String) : Except Fault Contents :=
  decode contentsShape.read source.toList

/-- Reads a snapshot. -/
def parse (source : String) : Except LoadError Database :=
  match parseContents source with
  | .error f => .error (malformed source.toList f)
  | .ok contents =>
    match Database.ofContents contents with
    | .error violation => .error (.invalid violation)
    | .ok db => .ok db

/-- A snapshot that is part of another text can be refused for its form or for its content. -/
inductive Refusal where
  | form (fault : Fault)
  | content (violation : ModelError)

/-- Reads a snapshot and checks the rules of the model as soon as its last bracket is closed, before
what follows it. -/
def decodeDatabase (source : String) : Except Refusal Database :=
  match contentsShape.read source.toList with
  | .error f => .error (.form f)
  | .ok (contents, rest) =>
    match Database.ofContents contents with
    | .error violation => .error (.content violation)
    | .ok db =>
      match readEnd rest with
      | .error f => .error (.form f)
      | .ok () => .ok db

/-! ## Writing -/

/-- Prints a text. -/
def printText (s : String) : List Char :=
  quoted s.toList

/-- Prints an environment. -/
def printEnvironment (depth : Nat) (e : Environment) : List Char :=
  printObject depth [("id", printText e.id.text), ("name", printText e.name)]

/-- Prints a step. -/
def printStep (depth : Nat) (s : Step) : List Char :=
  printObject depth
    [ ("from", printText s.sender.text)
    , ("to", printText s.receiver.text)
    , ("event", printText s.event) ]

/-- Prints a diagram. -/
def printDiagram (depth : Nat) (d : Diagram) : List Char :=
  printObject depth
    [ ("id", printText d.id.text)
    , ("title", printText d.title)
    , ("environments", printList (depth + 1) (d.environments.toList.map (printText ·.text)))
    , ("steps", printList (depth + 1) (d.steps.map (printStep (depth + 2)))) ]

/-- Prints the contents of a database. -/
def printContents (c : Contents) : List Char :=
  printObject 0
    [ ("environments", printList 1 (c.environments.map (printEnvironment 2)))
    , ("diagrams", printList 1 (c.diagrams.map (printDiagram 2))) ]

/-- The canonical text of a database. -/
def print (db : Database) : String :=
  String.ofList (printContents db.contents ++ ['\n'])

end Snapshot

end Choreography
