import Choreography.CommandLine
import Choreography.Compile
import Choreography.SettingsFile

/-!
# A run of the program

A run finds its settings, loads the snapshot and saves it again together with the generated code.
Settings come from the file named on the command line, or else from the first file that is there:
one beside the snapshot's project, then one in the directory that the platform keeps for the
program's settings. The command line overrides the output root and the backend.

`runIn` takes that directory as it is, and `run` finds it by the rules for desktops.
-/

namespace Choreography

namespace Run

variable {m : Type → Type} [Monad m]

/-- The settings file of a project. -/
def localSettings : Path := ⟨"sextant/config.toml"⟩

/-- The settings file of a user, in the directory that the platform keeps for the program. -/
def userSettings (directory : Path) : Path := directory.join "config.toml"

/-- The directory for the program's settings, which is there for everyone with a home directory. All
programs have theirs in one place: the one that the environment names, if it is absolute, and else
one in the home directory. -/
def settingsDirectory (home named : Option Path) : Option Path :=
  home.map fun home =>
    let all := (named.filter (·.isAbsolute)).getD (home.join ".config")
    all.join "sextant"

/-- Reads a settings file. -/
def readSettings (storage : Storage m) (path : Path) : m (Except Failure Settings) := do
  if !(← storage.contains path) then
    return .error (.configuration s!"Missing configuration file: {path.text}")
  match ← storage.read path with
  | .error error => return .error (.storage error)
  | .ok text =>
    match Settings.parseToml text with
    | .ok settings => return .ok settings
    | .error fault =>
      let message := s!"Failed to parse TOML configuration in {path.text}" ++ fault.detail
      return .error (.configuration message)

/-- Reads the first settings file that is there; without any, all settings keep their defaults. -/
def findSettings (storage : Storage m) : List Path → m (Except Failure Settings)
  | [] => return .ok {}
  | path :: rest => do
    if ← storage.contains path then readSettings storage path else findSettings storage rest

/-- The settings of a run, before the command line overrides them. -/
def loadSettings (storage : Storage m) (directory : Option Path) (explicit : Option String) :
    m (Except Failure Settings) :=
  match explicit with
  | some path => readSettings storage ⟨path⟩
  | none => findSettings storage (localSettings :: (directory.map userSettings).toList)

/-- The settings with the command line's overrides. -/
def override (args : Arguments) (settings : Settings) : Settings :=
  let settings := match args.output with
    | some root => settings.withRoot root
    | none => settings
  match args.backend with
  | some backend => settings.withBackend backend
  | none => settings

/-- Carries out a command line, with the directory for the program's settings. -/
def runIn (storage : Storage m) (directory : Option Path) (args : Arguments) :
    m (Except Failure SaveReport) := do
  match ← loadSettings storage directory args.config with
  | .error failure => return .error failure
  | .ok settings =>
    let settings := override args settings
    match ← Compile.load storage ⟨args.snapshot⟩ with
    | .error failure => return .error failure
    | .ok db => Compile.save settings storage db

/-- Carries out a command line in an environment that names a home directory, and possibly a place
for all settings. -/
def run (storage : Storage m) (home : Option Path) (args : Arguments)
    (named : Option Path := none) : m (Except Failure SaveReport) :=
  runIn storage (settingsDirectory home named) args

end Run

end Choreography
