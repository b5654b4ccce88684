import Choreography.GeneratedFile
import Choreography.Json.Printer
import Choreography.Naming.Casing
import Choreography.Naming.Unique

/-!
# TypeScript modules

Each service becomes a module with an interface of its operations, an interface of its calls and
a function that puts a service object together. Event names are quoted property names, so any text
is kept. `index.ts` exports all modules again; no service module may take its name.
-/

namespace Choreography

namespace TypeScript

open Naming

/-- A name in capitals without the word `Service` at its end, unless there is nothing else. -/
def exportStem (name : String) : String :=
  let pascal := (Casing.pascal.nameChars name.toList)
  let word := "Service".toList
  let stem := pascal.take (pascal.length - word.length)
  String.ofList (if word.isSuffixOf pascal && !stem.isEmpty then stem else pascal)

/-- The stems of the service modules. -/
def moduleStems (services : List Service) : List String :=
  unique ["index"] (services.map (Casing.kebab.name ·.name))

/-- The stems of the exported names. -/
def exportStems (services : List Service) : List String :=
  unique [] (services.map (exportStem ·.name))

/-- The member of an interface that declares an event. -/
def memberLine (event : String) : String :=
  "  " ++ Json.quote event ++ ": (payload: unknown) => Promise<void>;"

/-- The lines of an interface, behind a blank one. -/
def interfaceLines (name : String) (events : List String) : List String :=
  if events.isEmpty then ["", "export interface " ++ name ++ " \x7b\x7d"]
  else ["", "export interface " ++ name ++ " \x7b"] ++ events.map memberLine ++ ["\x7d"]

/-- The comment lines that a service module begins with. -/
def headLines (s : Service) : List String :=
  [ "// " ++ generatedNotice
  , "// Service " ++ Json.quote s.name ++ " (" ++ s.id.text ++ ")" ]

/-- The lines of the function that puts a service object together, behind a blank one. -/
def factoryLines (stem : String) (s : Service) : List String :=
  [ ""
  , "export const create" ++ stem ++ "Service = ("
  , "  operations: " ++ stem ++ "Operations,"
  , "  calls: " ++ stem ++ "Calls,"
  , ") => (\x7b name: " ++ Json.quote s.name ++ ", operations, calls \x7d);" ]

/-- The lines of a service module. -/
def moduleLines (stem : String) (s : Service) : List String :=
  headLines s
    ++ interfaceLines (stem ++ "Operations") s.operations
    ++ interfaceLines (stem ++ "Calls") s.calls
    ++ factoryLines stem s

/-- Lines as a text. -/
def unlines (lines : List String) : String :=
  String.join (lines.map (· ++ "\n"))

/-- The file of a service. -/
def moduleFile (s : Service) (moduleStem stem : String) : GeneratedFile where
  filename := moduleStem ++ ".ts"
  content := unlines (moduleLines stem s)
  service := some s.id

/-- The line of the index that exports a module. -/
def exportLine (moduleStem : String) : String :=
  "export * from \"./" ++ moduleStem ++ "\";"

/-- The index of the given modules. -/
def indexFile (moduleStems : List String) : GeneratedFile where
  filename := "index.ts"
  content := unlines (("// " ++ generatedNotice) :: "" :: moduleStems.map exportLine)
  service := none

/-- The files of the services, in their order, and the index. -/
def files (services : List Service) : List GeneratedFile :=
  let stems := (moduleStems services).zip (exportStems services)
  (services.zip stems).map (fun (s, moduleStem, stem) => moduleFile s moduleStem stem)
    ++ [indexFile (moduleStems services)]

/-- Renders services as TypeScript. -/
def adapter : Adapter where
  name := "typescript"
  generate services := .ok (files services)
  quoteEvent := Json.quote

end TypeScript

end Choreography
