import ProjectContext.Discovery.Plain
import ProjectContext.Ignore.Global

/-!
# Searching a project with respect for ignore files

The search goes down as the plain one does, but leaves out what the ignore rules exclude and never
enters an excluded directory. Four kinds of rules are asked in turn, and the first kind with a
verdict decides; of one kind the rules of the nearest directory come first. The rules of the
directories above the root count as well, and a malformed one among them ends the search before it
begins.
-/

namespace ProjectContext

open Ignore

/-- The rules that the files of one directory hold, by kind. -/
structure DirectoryRules where
  ignoreFile : RuleSet
  gitignore : RuleSet
  exclude : RuleSet

/-- The rules that are in force in a directory: those of the directories on the way from the root,
the nearest first, those of the directories above the root, and those of the user. -/
structure IgnoreScope where
  root : Path
  canonicalRoot : Path
  inside : List DirectoryRules
  above : List DirectoryRules
  user : RuleSet

namespace FileSystem

def directoryRules (fs : FileSystem) (directory : Path) : DirectoryRules where
  ignoreFile := fs.readRules directory (RuleFile.ignore.path directory)
  gitignore := fs.readRules directory (RuleFile.gitignore.path directory)
  exclude := fs.readRules directory (RuleFile.exclude.path directory)

def locationsAbove (location : Location) : List Location :=
  (List.range location.length).reverse.map location.take

/-- The directories above a root, the nearest first. A root whose own place is too long for a path has
none. -/
def directoriesAbove (location : Location) : List Path :=
  if maxPath < (pathOf location).bytes.length then [] else (locationsAbove location).map pathOf

/-- What is said of the rule files above a root, those of the top directory first. -/
def faultsAbove (fs : FileSystem) (location : Location) : List String :=
  (directoriesAbove location).reverse.flatMap fs.faultsOf

def ignoreScope (fs : FileSystem) (root : Path) (location : Location) : IgnoreScope where
  root := root
  canonicalRoot := pathOf location
  inside := []
  above := (directoriesAbove location).map fs.directoryRules
  user := globalRules fs

end FileSystem

namespace IgnoreScope

def enter (scope : IgnoreScope) (rules : DirectoryRules) : IgnoreScope :=
  { scope with inside := rules :: scope.inside }

def canonical (scope : IgnoreScope) (path : Bytes) : Bytes :=
  let rest :=
    if scope.root.components = [.current] then path
    else RuleSet.dropStart [RuleSet.slashByte]
      (RuleSet.dropStart (RuleSet.withoutDot scope.root.bytes) path)
  (scope.canonicalRoot.join rest).bytes

def verdict? (scope : IgnoreScope) (p : Path) (isDirectory : Bool) : Option Verdict :=
  let path := RuleSet.withoutDot p.bytes
  let canonical := scope.canonical path
  let ask (kind : DirectoryRules → RuleSet) : Option Verdict :=
    ((scope.inside.map fun rules => (kind rules).verdict? path isDirectory) ++
      scope.above.map fun rules => (kind rules).verdict? canonical isDirectory).findSome? id
  ((ask (·.ignoreFile)).or (ask (·.gitignore))).or
    ((ask (·.exclude)).or (scope.user.verdict? path isDirectory))

def excludes (scope : IgnoreScope) (p : Path) (isDirectory : Bool) : Bool :=
  scope.verdict? p isDirectory == some .ignore

end IgnoreScope

namespace FileSystem

mutual

def listKeptEntry (fs : FileSystem) (scope : IgnoreScope) (p : Path) : Entry → List Visit
  | .file _ => if scope.excludes p false then [] else [.file p]
  | .link _ => if scope.excludes p false then [] else if fs.isFile p then [.file p] else []
  | .directory children =>
    if scope.excludes p true then []
    else fs.inDirectory p (fs.listKeptChildren (scope.enter (fs.directoryRules p)) p children)

def listKeptChildren (fs : FileSystem) (scope : IgnoreScope) (p : Path) :
    List (Bytes × Entry) → List Visit
  | [] => []
  | (name, e) :: rest =>
    fs.listKeptEntry scope (p.join name) e ++ fs.listKeptChildren scope p rest

end

/-- How a search with ignore rules says that a directory could not be opened. -/
def unopenedMessage (u : Unopened) : String := u.directory.display ++ ": " ++ u.message

/-- Lists the files of the wanted kinds below a root that no ignore rule excludes. A root that is
the lone hyphen stands for the standard input, which holds no files. -/
def discoverKept (fs : FileSystem) (root : Path) (kinds : List FileKind) :
    Except ScanError (List DiscoveredFile) := do
  let (location, children) ← fs.openRoot root
  let faults := fs.faultsAbove location
  let scope := (fs.ignoreScope root location).enter (fs.directoryRules root)
  if root.components = [.normal [0x2D]] then .ok []
  else if faults ≠ [] then .error (.walk root ("\n".intercalate faults))
  else DiscoveredFile.collect root kinds unopenedMessage (fs.listKeptChildren scope root children)

def scan (fs : FileSystem) (root : Path) (respectIgnoreFiles : Bool) (kinds : List FileKind) :
    Except ScanError (List DiscoveredFile) :=
  if respectIgnoreFiles then fs.discoverKept root kinds else fs.discover root kinds

end FileSystem

end ProjectContext
