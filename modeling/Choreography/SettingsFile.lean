import Choreography.Settings
import Choreography.Snapshot
import Choreography.Toml.Document

/-!
# Settings in files

Settings are read from TOML, and from JSON by the same rules: sections and keys may be missing,
unknown ones are skipped, and a section can also be written as a list of its values in order.
-/

namespace Choreography

namespace Settings

/-! ## TOML -/

/-- The text of an entry, or the given one if there is no entry. -/
def textOr (default : String) : Option Toml.Value → Option String
  | none => some default
  | some (.text s) => some s
  | some _ => none

/-- The backend of an entry: a name, or a table or list without content under a name. -/
def backendOr (default : Backend) : Option Toml.Value → Option Backend
  | none => some default
  | some (.text name) => Backend.ofName? name
  | some (.table _ [(name, .table _ [])]) | some (.table _ [(name, .list [])]) =>
    Backend.ofName? name
  | some _ => none

/-- The values of the given keys. All other entries are skipped, but their numbers must be ones that
can be read. -/
def valuesFor? (keys : List String) (entries : Toml.Entries) :
    Option (List (Option Toml.Value)) := do
  guard (Toml.entriesReadable (entries.filter fun (key, _) => key ∉ keys))
  return keys.map fun key => entries.lookup key

/-- The values of a section with the given keys. A time has none of them; a list may go on behind
them, and nobody looks at that. -/
def sectionValues? (keys : List String) : Option Toml.Value → Option (List (Option Toml.Value))
  | none | some .time => some (keys.map fun _ => none)
  | some (.table _ entries) => valuesFor? keys entries
  | some (.list items) => some (keys.mapIdx fun i _ => items[i]?)
  | some (.tables newestFirst) => some (keys.mapIdx fun i _ => newestFirst.reverse[i]?)
  | some _ => none

/-- The settings of a TOML document. -/
def ofToml? (entries : Toml.Entries) : Option Settings := do
  let default : Settings := {}
  let sections ← valuesFor? ["output", "codegen"] entries
  let output ← sectionValues? ["root", "snapshot_file"] sections[0]?.join
  let root ← textOr default.output.root.text output[0]?.join
  let snapshotFile ← textOr default.output.snapshotFile output[1]?.join
  let codegen ← sectionValues? ["backend"] sections[1]?.join
  let backend ← backendOr default.codegen.backend codegen[0]?.join
  return { output := { root := ⟨root⟩, snapshotFile }, codegen := { backend } }

/-- The settings of a text in TOML. -/
def parseToml (text : String) : Except Toml.Fault Settings := do
  Toml.wellFormed (ofToml? (← Toml.parse text))

/-! ## JSON -/

open Json Snapshot

/-- `root`, `snapshot_file` -/
def outputShape : Shape OutputSettings where
  title := "struct OutputConfig"
  blank := {}
  fields :=
    [ field "root" false (readString "path string") fun o root => { o with root := ⟨root⟩ }
    , field "snapshot_file" false readText fun o snapshotFile => { o with snapshotFile } ]

/-- `backend` -/
def codegenShape : Shape CodegenSettings where
  title := "struct CodegenConfig"
  blank := {}
  fields := [field "backend" false (readVariant Backend.named) fun c backend => { c with backend }]

/-- `output`, `codegen` -/
def shape : Shape Settings where
  title := "struct AppConfig"
  blank := {}
  fields :=
    [ field "output" false outputShape.read fun s output => { s with output }
    , field "codegen" false codegenShape.read fun s codegen => { s with codegen } ]

end Settings

end Choreography
