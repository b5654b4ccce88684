import Choreography.Failure

/-!
# Diagnostics: failures as they are shown on the command line

A malformed snapshot whose source is at hand is shown with a label at the place of the fault. Every
other failure is shown as a message with a code and, for some, advice.
-/

namespace Choreography

/-- A marked place in a source. -/
structure Label where
  text : String
  /-- In bytes. -/
  offset : Nat
  /-- In bytes. -/
  length : Nat
  isPrimary : Bool
  deriving DecidableEq, Repr

/-- What is shown of a failure. -/
structure Diagnostic where
  message : String
  code : String
  help : Option String
  /-- The text that the labels point into. -/
  source : Option String
  labels : List Label
  deriving DecidableEq, Repr

namespace Diagnostic

/-- The label of a malformed snapshot: one byte, or none at the end of the source. -/
def faultLabel (source : String) (position : Json.Position) : Label :=
  let offset := position.offsetIn source.toList
  { text := "here"
    offset
    length := if offset < source.utf8ByteSize then 1 else 0
    isPrimary := true }

/-- A malformed snapshot, shown in its source. -/
def malformed (source detail : String) (position : Json.Position) : Diagnostic where
  message := "invalid snapshot: " ++ detail
  code := "sextant::load::syntax"
  help := some "snapshots are JSON objects with `environments` and `diagrams` arrays"
  source := some source
  labels := [faultLabel source position]

/-- The code of a failure that is shown without a source. -/
def codeOf : Failure → String
  | .storage _ => "sextant::io"
  | .model _ => "sextant::model"
  | .load .. => "sextant::load"
  | .dangling _ => "sextant::flatten"
  | .codegen _ => "sextant::codegen"
  | .write _ => "sextant::write"
  | .configuration _ => "sextant::config"
  | .queueClosed => "sextant::queue"

/-- Advice on a failure. -/
def advice : Failure → Option String
  | .write _ =>
    some ("files written before the failure were kept; " ++
      "run again once the paths are writable")
  | .codegen _ => some "no files were written"
  | _ => none

/-- The diagnostics of a failure. -/
def ofFailure : Failure → List Diagnostic
  | .load (.malformed detail position) (some source) => [malformed source detail position]
  | failure =>
    [{ message := failure.message
       code := codeOf failure
       help := advice failure
       source := none
       labels := [] }]

end Diagnostic

end Choreography
