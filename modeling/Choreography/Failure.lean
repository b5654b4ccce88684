import Choreography.GeneratedFile
import Choreography.Snapshot

/-!
# What a run of the program can fail with
-/

namespace Choreography

/-- The failures of all stages. A load error keeps the source that it was found in, if there is
one. -/
inductive Failure where
  | storage (error : StorageError)
  | model (error : ModelError)
  | load (error : LoadError) (source : Option String)
  | dangling (error : DanglingStep)
  | codegen (error : CodegenError)
  /-- The outputs that could not be written, in the order of writing. -/
  | write (failures : List (Path × StorageError))
  | configuration (message : String)
  | queueClosed
  deriving DecidableEq, Repr

namespace Failure

/-- One failed output in words. -/
def describeOutput : Path × StorageError → String
  | (path, error) => s!"`{path.text}` ({error.text})"

/-- The sentence shown to the user. -/
def message : Failure → String
  | .storage error => s!"I/O error: {error.text}"
  | .model error => error.message
  | .load error _ => error.message
  | .dangling error => error.message
  | .codegen error => error.message
  | .write failures =>
    "failed to write " ++ String.intercalate ", " (failures.map describeOutput)
  | .configuration message => s!"Configuration error: {message}"
  | .queueClosed => "save queue is closed"

end Failure

end Choreography
