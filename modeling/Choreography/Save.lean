import Choreography.Failure
import Choreography.FileTree
import Choreography.Settings

/-!
# Saving: the snapshot and the generated files

A save renders everything first: nothing is written if the database cannot be rendered, or if a
generated file would take the name of the snapshot. Then the outputs are written one by one, the
snapshot first. An output that already holds its text is left alone, and one that cannot be written
does not stop the others.
-/

namespace Choreography

/-- A text and the path at which it goes. -/
structure Output where
  path : Path
  text : String
  deriving DecidableEq, Repr

/-- What became of an output. -/
inductive Written where
  | written
  | unchanged
  | failed (error : StorageError)
  deriving DecidableEq, Repr

/-- The outputs of a successful save, in the order of writing. -/
structure SaveReport where
  written : List Path
  /-- The outputs that held their text already. -/
  unchanged : List Path
  deriving DecidableEq, Repr

/-- Where a save goes. -/
structure Writer where
  root : Path
  snapshotFile : String
  deriving DecidableEq, Repr

namespace Writer

/-- The path of the snapshot. -/
def snapshotPath (w : Writer) : Path :=
  w.root.join w.snapshotFile

/-- The files that an adapter renders for a database. -/
def render (adapter : Adapter) (db : Database) : Except Failure (List GeneratedFile) := do
  let services ← db.services.mapError .dangling
  (adapter.generateChecked services).mapError .codegen

/-- The outputs of a save: the snapshot and the generated files. A generated file with the
components of the snapshot's name is refused. -/
def outputs (w : Writer) (adapter : Adapter) (db : Database) : Except Failure (List Output) := do
  let files ← render adapter db
  let snapshotName : Path := ⟨w.snapshotFile⟩
  let clashes (file : GeneratedFile) : Bool :=
    (⟨file.filename⟩ : Path).components = snapshotName.components
  if let some file := files.find? clashes then
    throw (.codegen (.duplicateFile adapter.name file.filename))
  return ⟨w.snapshotPath, Snapshot.print db⟩ ::
    files.map fun file => ⟨w.root.join file.filename, file.content⟩

variable {m : Type → Type} [Monad m]

/-- Writes one output unless it holds its text already. -/
def writeOutput (storage : Storage m) (o : Output) : m Written := do
  match ← storage.read o.path with
  | .ok text => if text = o.text then return .unchanged else replace
  | .error _ => replace
where
  /-- Writes the output. -/
  replace : m Written := do
    match ← storage.replace o.path o.text with
    | .ok () => return .written
    | .error error => return .failed error

/-- Writes outputs one after the other. -/
def writeAll (storage : Storage m) : List Output → m (List (Path × Written))
  | [] => return []
  | o :: rest => do
    let result ← writeOutput storage o
    return (o.path, result) :: (← writeAll storage rest)

/-- The outputs that failed, or else the report. -/
def report (results : List (Path × Written)) : Except Failure SaveReport :=
  let failures := results.filterMap fun
    | (path, .failed error) => some (path, error)
    | _ => none
  if failures.isEmpty then
    .ok
      { written := (results.filter (·.2 = .written)).map (·.1)
        unchanged := (results.filter (·.2 = .unchanged)).map (·.1) }
  else .error (.write failures)

/-- Saves a database. -/
def save (w : Writer) (storage : Storage m) (adapter : Adapter) (db : Database) :
    m (Except Failure SaveReport) := do
  match w.outputs adapter db with
  | .error failure => return .error failure
  | .ok outputs => return report (← writeAll storage outputs)

end Writer

end Choreography
