import Choreography.Storage

/-!
# A file tree in memory

A tree maps places (lists of names from the top) to files and directories; there are no links.
Paths are followed step by step from the working directory, and every component but the last has
to be a directory. A name that is too long cannot be looked up, and a text that is too long or holds
a NUL leads nowhere.

`FileTree.storage` runs `Storage` on a tree. Creating directories tries the whole path first and
goes up only as long as something is missing, so an obstacle far up is told apart from one at the
path itself; a file is put in place last, under its own name, so an obstacle there leaves all files
as they were.
-/

namespace Choreography

/-- What stands at a place. -/
inductive Entry where
  | file (text : String)
  | directory
  deriving DecidableEq, Repr

/-- A place in the tree: the names that lead to it from the top. -/
abbrev Place := List String

/-- Files and directories. The working directory and what lies above it are always
directories. -/
structure FileTree where
  entries : List (Place × Entry) := []
  current : Place := []
  deriving DecidableEq, Repr

/-- The system's words for a failure. -/
def StorageFault.text : StorageFault → String
  | .notFound => "No such file or directory (os error 2)"
  | .alreadyExists => "File exists (os error 17)"
  | .notADirectory => "Not a directory (os error 20)"
  | .isADirectory => "Is a directory (os error 21)"
  | .busy => "Device or resource busy (os error 16)"
  | .nameTooLong => "File name too long (os error 36)"
  | .invalidPath => "file name contained an unexpected NUL byte"
  | .other => "other error"

/-- The failure with the system's words for it. -/
def StorageFault.error (fault : StorageFault) : StorageError :=
  ⟨fault, fault.text⟩

/-- The most bytes that a name has. -/
def maxNameBytes : Nat := 255

/-- The most bytes that the text of a path has. -/
def maxPathBytes : Nat := 4095

/-- The text can belong to a path: it holds no NUL and is not too long. -/
def Path.check (p : Path) : Except StorageFault Unit :=
  if '\x00' ∈ p.text.toList then .error .invalidPath
  else if p.text.utf8ByteSize ≤ maxPathBytes then .ok ()
  else .error .nameTooLong

namespace FileTree

/-! ## Places -/

/-- What stands at a place, if anything. -/
def lookup (t : FileTree) (place : Place) : Option Entry :=
  if place.isPrefixOf t.current then some .directory else t.entries.lookup place

/-- Puts something at a place. -/
def put (t : FileTree) (place : Place) (entry : Entry) : FileTree :=
  { t with entries := (place, entry) :: t.entries.filter (·.1 ≠ place) }

/-- Takes away what stands at a place. -/
def erase (t : FileTree) (place : Place) : FileTree :=
  { t with entries := t.entries.filter (·.1 ≠ place) }

/-- What stands at a place in a directory, if anything. A name that is too long cannot be looked
up. -/
def find (t : FileTree) (place : Place) : Except StorageFault (Option Entry) :=
  if place.getLast?.all (·.utf8ByteSize ≤ maxNameBytes) then .ok (t.lookup place)
  else .error .nameTooLong

/-- A directory stands at the place. -/
def enter (t : FileTree) (place : Place) : Except StorageFault Unit := do
  match ← t.find place with
  | some .directory => return ()
  | some (.file _) => throw .notADirectory
  | none => throw .notFound

/-- The place that a component leads to. -/
def step (place : Place) : Path.Component → Place
  | .root => []
  | .here => place
  | .up => place.dropLast
  | .name n => place ++ [n]

/-- The place that components lead to. Each one is taken from a directory; nothing need stand at
the place itself. -/
def walk (t : FileTree) : (start : Place) → List Path.Component → Except StorageFault Place
  | place, [] => .ok place
  | place, c :: rest => do
    t.enter place
    t.walk (step place c) rest

/-- What stands at the end of the components, if anything. -/
def follow (t : FileTree) (cs : List Path.Component) : Except StorageFault Entry := do
  match ← t.find (← t.walk t.current cs) with
  | some entry => return entry
  | none => throw .notFound

/-! ## Reading -/

/-- What stands at a path. A path that ends like a directory does not lead to a file. -/
def get (t : FileTree) (p : Path) : Except StorageFault Entry := do
  p.check
  if p.text.isEmpty then throw .notFound
  match ← t.follow p.components with
  | .directory => return .directory
  | .file text =>
    if p.endsWithSlash || p.endsWithDot then throw .notADirectory else return .file text

/-- The text of a file. -/
def read (t : FileTree) (p : Path) : Except StorageFault String := do
  match ← t.get p with
  | .file text => return text
  | .directory => throw .isADirectory

/-- Something stands at the path. -/
def contains (t : FileTree) (p : Path) : Bool :=
  (t.get p).isOk

/-! ## Creating directories -/

/-- The components lead to a directory. -/
def isDirectory (t : FileTree) (cs : List Path.Component) : Bool :=
  match t.follow cs with
  | .ok .directory => true
  | _ => false

/-- Creates one directory. Its parent has to be there. -/
def makeDirectory (t : FileTree) (cs : List Path.Component) : Except StorageFault FileTree := do
  let place ← t.walk t.current cs
  match cs.getLast?, ← t.find place with
  | some (.name _), none => return t.put place .directory
  | _, _ => throw .alreadyExists

/-- Creates a directory and what is missing above it; the components are given last one first.
Answers with the tree as far as it got. -/
def makeDirectories (t : FileTree) : List Path.Component → Except StorageFault Unit × FileTree
  | [] => (.ok (), t)
  | c :: above =>
    let cs := (c :: above).reverse
    let settle (t : FileTree) (fault : StorageFault) : Except StorageFault Unit × FileTree :=
      if t.isDirectory cs then (.ok (), t) else (.error fault, t)
    match t.makeDirectory cs with
    | .ok t => (.ok (), t)
    | .error .notFound =>
      match t.makeDirectories above with
      | (.error fault, t) => (.error fault, t)
      | (.ok (), t) =>
        match t.makeDirectory cs with
        | .ok t => (.ok (), t)
        | .error fault => settle t fault
    | .error fault => settle t fault

/-- Creates the directory of a path and what is missing above it. -/
def createDirectory (t : FileTree) (p : Path) : Except StorageFault Unit × FileTree :=
  match p.check with
  | .error fault => (.error fault, t)
  | .ok () => t.makeDirectories p.components.reverse

/-! ## Writing -/

/-- The place at which a file of this path can be put. -/
def target (t : FileTree) (p : Path) : Except StorageFault Place := do
  p.check
  let place ← t.walk t.current p.components
  if p.endsWithDot then
    t.enter place
    throw .busy
  match p.components.getLast? with
  | none => throw .notFound
  | some (.name _) =>
    let entry ← t.find place
    if p.endsWithSlash then throw .notADirectory
    if entry = some .directory then throw .isADirectory
    return place
  | some _ => throw .busy

/-- Creates the directories that a path needs and puts a text there. -/
def replace (t : FileTree) (p : Path) (text : String) : Except StorageFault Unit × FileTree :=
  match p.parent.check with
  | .error fault => (.error fault, t)
  | .ok () =>
    match t.makeDirectories p.parentComponents.reverse with
    | (.error fault, t) => (.error fault, t)
    | (.ok (), t) =>
      match t.target p with
      | .error fault => (.error fault, t)
      | .ok place => (.ok (), t.put place (.file text))

/-- Removes the file of a path. -/
def removeFile (t : FileTree) (p : Path) : Except StorageFault Unit × FileTree :=
  match t.read p, t.walk t.current p.components with
  | .ok _, .ok place => (.ok (), t.erase place)
  | .error fault, _ | _, .error fault => (.error fault, t)

/-- A failure with the system's words for it. -/
def reported {α : Type} (result : Except StorageFault α) : Except StorageError α :=
  result.mapError StorageFault.error

/-- A tree as storage. -/
def storage : Storage (StateM FileTree) where
  contains p := return (← MonadState.get).contains p
  read p := return reported ((← MonadState.get).read p)
  replace p text := fun t =>
    let (result, t) := t.replace p text
    (reported result, t)

end FileTree

end Choreography
