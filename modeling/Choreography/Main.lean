import Choreography.Diagnostic
import Choreography.Run

/-!
# The program

Runs the command line on the disk. Failures are printed as diagnostics, and the exit code tells a
bad command line (2) from a failed run (1).
-/

namespace Choreography

namespace Program

/-- The version of the program. -/
def version : String := "0.1.0"

/-- The help text. -/
def usage : String :=
  String.intercalate "\n" [
    "Usage: sextant [OPTIONS] <SNAPSHOT>",
    "",
    "Arguments:",
    "  <SNAPSHOT>               Path to the snapshot file",
    "",
    "Options:",
    "  -o, --output <OUTPUT>    Output root for the snapshot and generated files",
    "  -b, --backend <BACKEND>  Code generation backend",
    "  -c, --config <CONFIG>    Path to configuration file (TOML)",
    "      --log-level <LEVEL>  Log level [default: info]",
    "  -h, --help               Print help",
    "  -V, --version            Print version"]

/-- The failure of an operation on the disk. -/
def storageError (e : IO.Error) : StorageError :=
  let fault : StorageFault := match e with
    | .noFileOrDirectory .. => .notFound
    | .alreadyExists .. => .alreadyExists
    | .resourceBusy .. => .busy
    | .inappropriateType .. => .notADirectory
    | .invalidArgument _ 22 _ => .invalidPath
    | .invalidArgument .. => .nameTooLong
    | _ => .other
  ⟨fault, toString e⟩

/-- Carries out an operation on the disk. -/
def attempt {α : Type} (action : IO α) : IO (Except StorageError α) := do
  try return .ok (← action)
  catch e => return .error (storageError e)

/-- Puts a text into a file by way of a temporary file beside it. -/
def replaceFile (path text : String) : IO Unit := do
  let target := System.mkFilePath [path]
  let directory := match target.parent with
    | some parent => if parent.toString.isEmpty then System.mkFilePath ["."] else parent
    | none => System.mkFilePath ["."]
  IO.FS.createDirAll directory
  let temporary := directory / s!".tmp{← IO.monoNanosNow}"
  try
    IO.FS.writeFile temporary text
    IO.FS.rename temporary target
  catch e =>
    if ← temporary.pathExists then IO.FS.removeFile temporary
    throw e

/-- The disk as storage. -/
def disk : Storage IO where
  contains path := (System.mkFilePath [path.text]).pathExists
  read path := attempt (IO.FS.readFile path.text)
  replace path text := attempt (replaceFile path.text text)

/-- One diagnostic as lines of text. -/
def diagnosticLines (d : Diagnostic) : List String :=
  [d.code, "error: " ++ d.message]
    ++ d.labels.map (fun l => s!"  at byte {l.offset}: {l.text}")
    ++ (d.help.map ("help: " ++ ·)).toList

/-- The path that the environment has under a name, if it has any. -/
def pathOf (name : String) : IO (Option Path) := do
  return ((← IO.getEnv name).filter (!·.isEmpty)).map Path.mk

/-- Runs the command line and answers with the exit code. -/
def start (arguments : List String) : IO UInt32 := do
  match CommandLine.parse arguments with
  | .error .help =>
    IO.println usage
    return 0
  | .error .version =>
    IO.println s!"sextant {version}"
    return 0
  | .error fault =>
    IO.eprintln s!"error: {fault.message}"
    IO.eprintln usage
    return 2
  | .ok args =>
    match ← Run.run disk (← pathOf "HOME") args (← pathOf "XDG_CONFIG_HOME") with
    | .ok _ => return 0
    | .error failure =>
      for d in Diagnostic.ofFailure failure do
        for line in diagnosticLines d do
          IO.eprintln line
      return 1

end Program

end Choreography

/-- Runs the command line. -/
def main (arguments : List String) : IO UInt32 :=
  Choreography.Program.start arguments
