import Choreography.Backend
import Choreography.Path

/-!
# Settings

Where the output goes and which backend renders it. Whatever a configuration file leaves out keeps
the value given here.
-/

namespace Choreography

/-- The section `output`. -/
structure OutputSettings where
  /-- The directory of the snapshot and the generated files. -/
  root : Path := ⟨"generated"⟩
  /-- The name of the snapshot, seen from the root. -/
  snapshotFile : String := "database.json"
  deriving DecidableEq, Repr

/-- The section `codegen`. -/
structure CodegenSettings where
  backend : Backend := .typescript
  deriving DecidableEq, Repr

/-- All settings. -/
structure Settings where
  output : OutputSettings := {}
  codegen : CodegenSettings := {}
  deriving DecidableEq, Repr

namespace Settings

/-- The same settings with another output root. -/
def withRoot (s : Settings) (root : String) : Settings :=
  { s with output.root := ⟨root⟩ }

/-- The same settings with another backend. -/
def withBackend (s : Settings) (backend : Backend) : Settings :=
  { s with codegen.backend := backend }

end Settings

end Choreography
