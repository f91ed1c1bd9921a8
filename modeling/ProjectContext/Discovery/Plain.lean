import ProjectContext.FileKind
import ProjectContext.FileTree.Basic

/-!
# Searching a project

The search lists the files below a root whose kind is wanted, in the order of paths. It descends
into real directories only, and lists links that lead to files under the name of the link. The first
directory that cannot be opened under its path ends it.
-/

namespace ProjectContext

inductive ScanError
  | rootNotFound (root : Path)
  | notADirectory (root : Path)
  | walk (root : Path) (message : String)
deriving DecidableEq, Repr

def ScanError.message : ScanError → String
  | .rootNotFound root => "Project root does not exist: " ++ root.display
  | .notADirectory root => "Project root is not a directory: " ++ root.display
  | .walk root message => "Failed to walk " ++ root.display ++ ": " ++ message

/-- A directory that could not be opened, and why. -/
structure Unopened where
  directory : Path
  error : AccessError
deriving DecidableEq, Repr

def Unopened.message (u : Unopened) : String :=
  "IO error for operation on " ++ u.directory.display ++ ": " ++ u.error.message

/-- What a search comes upon. -/
inductive Visit
  | file (p : Path)
  | unopened (u : Unopened)
deriving DecidableEq, Repr

/-- The files that a search comes upon, unless a directory ends it. -/
def Visit.files : List Visit → Except Unopened (List Path)
  | [] => .ok []
  | .file p :: rest => (files rest).map (p :: ·)
  | .unopened u :: _ => .error u

def DiscoveredFile.sort (files : List DiscoveredFile) : List DiscoveredFile :=
  files.mergeSort fun a b => !decide (b.path.key < a.path.key)

def DiscoveredFile.select (kinds : List FileKind) (p : Path) : Option DiscoveredFile :=
  (DiscoveredFile.ofPath? p).filter fun file => kinds.contains file.kind

/-- The files of the wanted kinds that a search comes upon. `message` is what it says of a directory
that ends it. -/
def DiscoveredFile.collect (root : Path) (kinds : List FileKind) (message : Unopened → String)
    (visits : List Visit) : Except ScanError (List DiscoveredFile) := do
  let paths ← (Visit.files visits).mapError (.walk root <| message ·)
  return DiscoveredFile.sort (paths.filterMap (DiscoveredFile.select kinds))

namespace FileSystem

def openRoot (fs : FileSystem) (root : Path) :
    Except ScanError (Location × List (Bytes × Entry)) :=
  match fs.resolve root with
  | .error _ => .error (.rootNotFound root)
  | .ok (location, .directory children) => .ok (location, children)
  | .ok _ => .error (.notADirectory root)

/-- What a search comes upon at a directory: what is in it, if the directory can be opened. -/
def inDirectory (fs : FileSystem) (p : Path) (inside : List Visit) : List Visit :=
  match fs.resolve p with
  | .error error => [.unopened ⟨p, error⟩]
  | .ok _ => inside

mutual

def listEntry (fs : FileSystem) (p : Path) : Entry → List Visit
  | .file _ => [.file p]
  | .link _ => if fs.isFile p then [.file p] else []
  | .directory children => fs.inDirectory p (fs.listChildren p children)

def listChildren (fs : FileSystem) (p : Path) : List (Bytes × Entry) → List Visit
  | [] => []
  | (name, e) :: rest => fs.listEntry (p.join name) e ++ fs.listChildren p rest

end

def discover (fs : FileSystem) (root : Path) (kinds : List FileKind) :
    Except ScanError (List DiscoveredFile) := do
  let (_, children) ← fs.openRoot root
  DiscoveredFile.collect root kinds Unopened.message (fs.listChildren root children)

end FileSystem

end ProjectContext
