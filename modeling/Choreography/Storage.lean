import Choreography.Path

/-!
# Storage: where files are read and written

`Storage m` is what the program needs from a file system, as operations of a monad `m`. The
command line runs it on the disk, `Choreography.FileTree` on a tree held in memory.
-/

namespace Choreography

/-- The sorts of failure that storage reports. -/
inductive StorageFault where
  | notFound
  | alreadyExists
  | notADirectory
  | isADirectory
  | busy
  /-- A name or the whole path is too long. -/
  | nameTooLong
  /-- The text of the path can belong to no path. -/
  | invalidPath
  | other
  deriving DecidableEq, Repr

/-- A failed operation on storage, with the system's words for it. -/
structure StorageError where
  fault : StorageFault
  text : String
  deriving DecidableEq, Repr

/-- Reading and writing files. -/
structure Storage (m : Type → Type) where
  /-- Something stands at the path. -/
  contains : Path → m Bool
  /-- The text of a file. -/
  read : Path → m (Except StorageError String)
  /-- Creates the directory in which a file of this path stands, with its ancestors, then puts the
  text there at once: the file holds the old text or the new one, never a part. -/
  replace : Path → String → m (Except StorageError Unit)

end Choreography
