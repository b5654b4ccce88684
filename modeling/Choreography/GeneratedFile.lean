import Choreography.Path
import Choreography.Service
import Choreography.Text.Occurrence

/-!
# Generated files and the adapters that render them

An `Adapter` renders services into files. `Adapter.generateChecked` runs one and refuses output
that leaves the output root, names one path twice or loses a declared event. A declared event
counts as rendered if its spelling, `Adapter.quoteEvent`, stands in a file that its service owns.
-/

namespace Choreography

/-- The notice in the first line of every generated file. -/
def generatedNotice : String := "@generated by sextant. Do not edit manually."

/-- A rendered file. -/
structure GeneratedFile where
  /-- Relative to the output root. -/
  filename : String
  content : String
  /-- The service that the file implements; a shared file has none. -/
  service : Option EnvironmentId
  deriving DecidableEq, Repr

/-- Why code could not be generated. -/
inductive CodegenError where
  | duplicateFile (adapter filename : String)
  | invalidPath (adapter filename : String)
  | missingDeclaration (adapter : String) (service : EnvironmentId) (event : String)
  | render (adapter filename message : String)
  deriving DecidableEq, Repr

/-- The sentence shown to the user. -/
def CodegenError.message : CodegenError → String
  | .duplicateFile adapter filename =>
    s!"adapter `{adapter}` produced `{filename}` more than once"
  | .invalidPath adapter filename =>
    s!"adapter `{adapter}` produced `{filename}`, which is not a relative path " ++
      "inside the output root"
  | .missingDeclaration adapter service event =>
    s!"adapter `{adapter}` dropped `{event}` declared by service `{service.text}`"
  | .render adapter filename message =>
    s!"adapter `{adapter}` failed to render `{filename}`: {message}"

/-- A way to render services. -/
structure Adapter where
  /-- The name used in error messages. -/
  name : String
  generate : List Service → Except CodegenError (List GeneratedFile)
  /-- How an event is spelled in the rendered files. -/
  quoteEvent : String → String

namespace Adapter

/-- The first file that leaves the output root or names the path of an earlier one. -/
def fileFault? (adapter : Adapter) (seen : List (List Path.Component)) :
    List GeneratedFile → Option CodegenError
  | [] => none
  | file :: rest =>
    let path : Path := ⟨file.filename⟩
    if !path.isContained then some (.invalidPath adapter.name file.filename)
    else if path.components ∈ seen then some (.duplicateFile adapter.name file.filename)
    else adapter.fileFault? (path.components :: seen) rest

/-- The first event that a service declares and that none of its files spells. -/
def lostEvent? (adapter : Adapter) (files : List GeneratedFile) (s : Service) : Option String :=
  let owned := (files.filter (·.service = some s.id)).map (·.content.toList)
  s.events.find? fun event =>
    let spelling := (adapter.quoteEvent event).toList
    !owned.any (Text.occursIn spelling)

/-- The first service with a lost event. -/
def declarationFault? (adapter : Adapter) (services : List Service)
    (files : List GeneratedFile) : Option CodegenError :=
  services.findSome? fun s =>
    (adapter.lostEvent? files s).map (.missingDeclaration adapter.name s.id)

/-- Runs the adapter and passes its files on if nothing is wrong with them. -/
def generateChecked (adapter : Adapter) (services : List Service) :
    Except CodegenError (List GeneratedFile) := do
  let files ← adapter.generate services
  if let some fault := adapter.fileFault? [] files then throw fault
  if let some fault := adapter.declarationFault? services files then throw fault
  return files

end Adapter

end Choreography
