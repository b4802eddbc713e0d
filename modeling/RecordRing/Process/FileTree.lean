import RecordRing.Buffer
import RecordRing.SystemError
import RecordRing.Text.Pieces

set_option autoImplicit false

namespace RecordRing

/-- What a name in a directory stands for. -/
inductive FileNode where
  | directory (entries : List (String × FileNode))
  | file (bytes : Buffer) (executable : Bool)
  | nullDevice

namespace FileNode

def child? (node : FileNode) (name : String) : Option FileNode :=
  match node with
  | directory entries => (entries.find? fun entry => entry.1 == name).map Prod.snd
  | _ => none

/-- The node at a location below this one. -/
def at? (node : FileNode) : List String → Option FileNode
  | [] => some node
  | name :: rest => (node.child? name).bind fun child => child.at? rest

/-- Put a node at a location below this one. Directories on the way must be there. -/
def put (node : FileNode) (child : FileNode) : List String → FileNode
  | [] => child
  | name :: rest =>
      match node with
      | directory entries =>
          let held := (node.child? name).getD (directory [])
          let others := entries.filter fun entry => entry.1 != name
          directory ((name, held.put child rest) :: others)
      | other => other

end FileNode

/-- All files, and the directory where relative paths start. -/
structure FileTree where
  root : FileNode
  working : List String := []

/-- A place in the tree that a path leads to. -/
structure FilePlace where
  location : List String
  /-- The path ends in a slash, so only a directory will do. -/
  slashed : Bool
  deriving DecidableEq, Repr

namespace FileTree

/-- Bytes that a name, and a whole path, may have. -/
def maxName : Nat := 255

def maxPath : Nat := 4095

def names (path : String) : List String :=
  (pieces path '/').filter fun name => !name.isEmpty

/-- One step along a path. What is stepped out of must be a directory. -/
def step (tree : FileTree) (location : List String) (name : String) :
    Except Failure (List String) :=
  match tree.root.at? location with
  | none => .error (.system .noSuchFile)
  | some (.directory _) =>
      if name == "." then .ok location
      else if name == ".." then .ok location.dropLast
      else if name.utf8ByteSize > maxName then .error (.system .nameTooLong)
      else .ok (location ++ [name])
  | some _ => .error (.system .notDirectory)

/-- Where a path leads. The last name need not be there. -/
def place (tree : FileTree) (path : String) : Except Failure FilePlace := do
  if path.toList.contains '\x00' then
    .error .nulInPath
  else if path.isEmpty then
    .error (.system .noSuchFile)
  else if path.utf8ByteSize > maxPath then
    .error (.system .nameTooLong)
  else
    let start := if path.toList.head? = some '/' then [] else tree.working
    let location ← (names path).foldlM tree.step start
    return ⟨location, path.endsWith "/"⟩

def find (tree : FileTree) (path : String) : Except Failure (FilePlace × FileNode) := do
  let place ← tree.place path
  match tree.root.at? place.location with
  | none => .error (.system .noSuchFile)
  | some (.directory entries) => return (place, .directory entries)
  | some node => if place.slashed then .error (.system .notDirectory) else return (place, node)

/-- What a file holds. The null device holds nothing. -/
def contents (tree : FileTree) (path : String) : Except Failure Buffer := do
  let (_, node) ← tree.find path
  match node with
  | .directory _ => .error (.system .isDirectory)
  | .file bytes _ => return bytes
  | .nullDevice => return .zeros 0

def read (tree : FileTree) (path : String) : Except Failure Bytes :=
  (tree.contents path).map Buffer.toBytes

/-- Open a file to map it: where it lies, and its bytes. -/
def openMapped (tree : FileTree) (path : String) : Except Failure (List String × Buffer) := do
  let (place, node) ← tree.find path
  match node with
  | .directory _ => .error (.system .isDirectory)
  | .file bytes _ => return (place.location, bytes)
  | .nullDevice => .error (.system .noSuchDevice)

/-- Where a file can be created that is to have a length, and what is there before. -/
def creatable (tree : FileTree) (path : String) : Except Failure (List String × Option Buffer) := do
  let place ← tree.place path
  if place.slashed then
    .error (.system .isDirectory)
  else
    match tree.root.at? place.location with
    | none => return (place.location, none)
    | some (.directory _) => .error (.system .isDirectory)
    | some (.file bytes _) => return (place.location, some bytes)
    | some .nullDevice => .error (.system .invalidArgument)

def store (tree : FileTree) (location : List String) (bytes : Buffer) : FileTree :=
  { tree with root := tree.root.put (.file bytes false) location }

def run (tree : FileTree) (path : String) : Except Failure Unit := do
  let (_, node) ← tree.find path
  match node with
  | .file _ true => return ()
  | _ => .error (.system .permissionDenied)

/-- Where programs are looked for whose name has no slash. -/
def programDirectories : List String :=
  ["/usr/local/sbin", "/usr/local/bin", "/usr/sbin", "/usr/bin", "/sbin", "/bin"]

/-- Look for a program in one directory after the other. -/
def search (tree : FileTree) (name : String) (seen : Failure) : List String → Except Failure Unit
  | [] => .error seen
  | directory :: rest =>
      match tree.run (directory ++ "/" ++ name) with
      | .ok () => .ok ()
      | .error failure =>
          let denied := failure = .system .permissionDenied
          tree.search name (if denied then failure else seen) rest

/-- Start a program by name or path. -/
def launch (tree : FileTree) (program : String) : Except Failure Unit :=
  if program.toList.contains '\x00' then .error (.other "nul byte found in provided data")
  else if program.isEmpty then .error (.system .noSuchFile)
  else if program.toList.contains '/' then tree.run program
  else tree.search program (.system .noSuchFile) programDirectories

end FileTree

end RecordRing
