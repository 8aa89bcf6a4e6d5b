/-!
The files that a program sees: what stands at each location, counted from the root, and the
directory in which paths begin that do not begin at the root. Reading and writing walk a path name
by name, and every name but the last has to be that of a directory. There is one way to each file,
and a file is what was last written to it: the tree has no links, symbolic or hard, and no devices,
which a path may lead to elsewhere.
-/

namespace WorkflowParams.CommandLine

inductive FileError where
  | notFound
  | notADirectory
  | isADirectory
  | notText
  /-- A failure that the file system words itself. -/
  | other (message : String)
  deriving DecidableEq, Repr

def FileError.message : FileError → String
  | .notFound => "No such file or directory (os error 2)"
  | .notADirectory => "Not a directory (os error 20)"
  | .isADirectory => "Is a directory (os error 21)"
  | .notText => "stream did not contain valid UTF-8"
  | .other message => message

inductive Entry where
  | file (contents : ByteArray)
  | directory

/-- The names on the way from the root. -/
abbrev Location := List String

structure FileTree where
  home : Location
  lookup : Location → Option Entry

namespace FileTree

/-- A tree that holds nothing but the root, the home directory and the directories between. -/
def empty (home : Location) : FileTree where
  home
  lookup location := if location.isPrefixOf home then some .directory else none

def set (t : FileTree) (location : Location) (entry : Entry) : FileTree :=
  { t with lookup := fun other => if other = location then some entry else t.lookup other }

@[simp] theorem lookup_set_self (t : FileTree) (location : Location) (entry : Entry) :
    (t.set location entry).lookup location = some entry := by simp [set]

/-- A path that ends in a slash can only be that of a directory. -/
def endsInSlash (path : String) : Bool := path.toList.getLast? = some '/'

/-- The names of a path; slashes that follow one another count as one. -/
def names (path : String) : List String :=
  ((path.toList.splitOn '/').map String.ofList).filter (· ≠ "")

/-- Where a path starts: at the root if it begins with a slash. -/
def start (t : FileTree) (path : String) : Location :=
  if path.toList.head? = some '/' then [] else t.home

def step (location : Location) (name : String) : Location :=
  if name = "." then location
  else if name = ".." then location.dropLast
  else location ++ [name]

/-- Follows names from a location; there need not be anything at the location they lead to. -/
def follow (t : FileTree) (location : Location) : List String → Except FileError Location
  | [] => .ok location
  | name :: rest =>
    match t.lookup location with
    | some .directory => t.follow (step location name) rest
    | some (.file _) => .error .notADirectory
    | none => .error .notFound

def locate (t : FileTree) (path : String) : Except FileError Location :=
  t.follow (t.start path) (names path)

def read (t : FileTree) (path : String) : Except FileError ByteArray :=
  match t.locate path with
  | .error e => .error e
  | .ok location =>
    match t.lookup location with
    | some .directory => .error .isADirectory
    | some (.file contents) => if endsInSlash path then .error .notADirectory else .ok contents
    | none => .error .notFound

/-- The location at which a file can be written under a path: there is a file already, or nothing
yet. A path that ends in a slash is taken for that of a directory before anything is looked for. -/
def writable (t : FileTree) (path : String) : Except FileError Location :=
  match t.locate path with
  | .error e => .error e
  | .ok location =>
    match t.lookup location with
    | some .directory => .error .isADirectory
    | some (.file _) | none => if endsInSlash path then .error .isADirectory else .ok location

def write (t : FileTree) (path : String) (contents : ByteArray) : Except FileError FileTree :=
  (t.writable path).map fun location => t.set location (.file contents)

end FileTree

end WorkflowParams.CommandLine
