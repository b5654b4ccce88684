import Choreography.Backend.Rust
import Choreography.Backend.TypeScript

/-!
# Backends

The languages that services can be rendered in, by the names used in configuration files and on
the command line.
-/

namespace Choreography

/-- A language to render services in. -/
inductive Backend where
  | typescript
  | rust
  deriving DecidableEq, Repr

namespace Backend

/-- The name of a backend. -/
def name : Backend → String
  | .typescript => "typescript"
  | .rust => "rust"

/-- All backends under their names. -/
def named : List (String × Backend) :=
  [typescript, rust].map fun b => (b.name, b)

/-- The backend of a name. -/
def ofName? (name : String) : Option Backend :=
  named.lookup name

/-- What is said of a name that no backend has. -/
def unknownMessage : String := "Unsupported code generation backend"

/-- The adapter of a backend. -/
def adapter : Backend → Adapter
  | .typescript => TypeScript.adapter
  | .rust => Rust.adapter

end Backend

end Choreography
