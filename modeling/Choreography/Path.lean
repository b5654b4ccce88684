/-!
# Paths

A path is a text. What it means is the list of its components: the text is cut at slashes, and
empty segments and single dots fall away, except for a dot that a relative path begins with. Two
texts with the same components are the same path.

`Path.join` works on texts, as does everything that is reported: a joined path is not simplified.
-/

namespace Choreography

/-- A path as it is written. -/
structure Path where
  text : String
  deriving DecidableEq, Repr

namespace Path

/-- One part of a path. -/
inductive Component where
  /-- The slash that a path from the top of the file system begins with. -/
  | root
  /-- The dot that a relative path begins with. -/
  | here
  /-- Two dots. -/
  | up
  /-- The name of a directory or file. -/
  | name (text : String)
  deriving DecidableEq, Repr

/-- A text cut at its slashes. -/
def segments : List Char → List (List Char)
  | [] => [[]]
  | c :: rest =>
    if c = '/' then [] :: segments rest
    else match segments rest with
      | [] => [[c]]
      | s :: more => (c :: s) :: more

/-- The component that a segment stands for, if it stands for any. -/
def component? : List Char → Option Component
  | [] | ['.'] => none
  | ['.', '.'] => some .up
  | s => some (.name (String.ofList s))

/-- The components of a path. -/
def components (p : Path) : List Component :=
  match segments p.text.toList with
  | [] => []
  | [] :: more =>
    (if more.isEmpty then [] else [.root]) ++ more.filterMap component?
  | ['.'] :: more => .here :: more.filterMap component?
  | all => all.filterMap component?

/-- A path of the given segments. -/
def ofSegments (ss : List (List Char)) : Path :=
  ⟨String.ofList (List.intercalate ['/'] ss)⟩

/-- A segment that falls away. -/
def isFiller (s : List Char) : Bool := (component? s).isNone

/-- The segments up to the last one that does not fall away. -/
def trimEnd (ss : List (List Char)) : List (List Char) :=
  (ss.reverse.dropWhile isFiller).reverse

/-- The segments behind so many that do not fall away. -/
def behind : (count : Nat) → List (List Char) → List (List Char)
  | 0, ss => ss
  | _ + 1, [] => []
  | count + 1, s :: rest => behind (if isFiller s then count + 1 else count) rest

/-- Begins at the top of the file system. -/
def isAbsolute (p : Path) : Bool :=
  p.text.toList.head? = some '/'

/-- The components of the directory in which the path stands. -/
def parentComponents (p : Path) : List Component :=
  p.components.dropLast

/-- The text in front of the last component, up to the component before it. -/
def parent (p : Path) : Path :=
  ofSegments (trimEnd (trimEnd (segments p.text.toList)).dropLast)

/-- The path as it is seen from a directory above it, if it is above it. What falls away at the
ends of the remaining text is left out, and within that text it is kept. -/
def below? (directory p : Path) : Option Path :=
  if directory.components.isPrefixOf p.components then
    let names := (segments directory.text.toList).filter (!isFiller ·)
    let rest := behind names.length (segments p.text.toList)
    some (ofSegments ((trimEnd rest).dropWhile isFiller))
  else none

/-- The text ends with a slash. -/
def endsWithSlash (p : Path) : Bool :=
  p.text.toList.getLast? = some '/'

/-- The last segment that is not empty is a single dot. -/
def endsWithDot (p : Path) : Bool :=
  ((segments p.text.toList).filter (!·.isEmpty)).getLast? = some ['.']

/-- The path of `name` seen from `root`. An absolute name replaces the root. -/
def join (root : Path) (name : String) : Path :=
  if isAbsolute ⟨name⟩ then ⟨name⟩
  else if root.text.isEmpty || root.endsWithSlash then ⟨root.text ++ name⟩
  else ⟨root.text ++ "/" ++ name⟩

/-- Names something beneath the directory that it is seen from: there is at least one component,
and each of them is a name. -/
def isContained (p : Path) : Bool :=
  !p.components.isEmpty && p.components.all fun
    | .name _ => true
    | _ => false

end Path

end Choreography
