import Choreography.Save

/-!
# Compiling a snapshot

The steps from a snapshot to generated code, with one choice of settings.
-/

namespace Choreography

/-- Reads a snapshot file. -/
def Snapshot.load {m : Type → Type} [Monad m] (storage : Storage m) (path : Path) :
    m (Except LoadError Database) := do
  match ← storage.read path with
  | .error error => return .error (.unreadable error)
  | .ok source => return Snapshot.parse source

namespace Compile

/-- Reads a snapshot; a failure keeps the source. -/
def parse (source : String) : Except Failure Database :=
  (Snapshot.parse source).mapError (.load · (some source))

/-- The writer of the settings. -/
def writer (settings : Settings) : Writer :=
  ⟨settings.output.root, settings.output.snapshotFile⟩

/-- The files that the settings' backend renders for a database. -/
def generate (settings : Settings) (db : Database) : Except Failure (List GeneratedFile) :=
  Writer.render settings.codegen.backend.adapter db

variable {m : Type → Type} [Monad m]

/-- Reads a snapshot file. -/
def load (storage : Storage m) (path : Path) : m (Except Failure Database) := do
  match ← storage.read path with
  | .error error => return .error (.storage error)
  | .ok source => return parse source

/-- Writes the snapshot and the generated files. -/
def save (settings : Settings) (storage : Storage m) (db : Database) :
    m (Except Failure SaveReport) :=
  (writer settings).save storage settings.codegen.backend.adapter db

end Compile

end Choreography
