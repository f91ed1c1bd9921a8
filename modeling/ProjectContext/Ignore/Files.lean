import ProjectContext.FileTree.Basic
import ProjectContext.Ignore.Rules

/-!
# Rule files

The files of a directory that hold ignore rules, the patterns in them, and what is said of the
malformed ones.
-/

namespace ProjectContext

open Ignore

inductive RuleFile
  | ignore
  | gitignore
  | exclude
deriving DecidableEq, Repr

namespace RuleFile

def all : List RuleFile := [.ignore, .gitignore, .exclude]

def names : RuleFile → List String
  | .ignore => [".ignore"]
  | .gitignore => [".gitignore"]
  | .exclude => [".git", "info", "exclude"]

def path (file : RuleFile) (directory : Path) : Path :=
  file.names.foldl (fun p name => p.join (.ofString name)) directory

end RuleFile

namespace FileSystem

/-- The patterns in a file, each with the number of its line. A file that cannot be read has none. -/
def patternsIn (fs : FileSystem) (file : Path) : List (Nat × List Char) :=
  match fs.readBytes file with
  | .ok content => RuleSet.patterns content
  | .error _ => []

def readRules (fs : FileSystem) (base file : Path) : RuleSet :=
  .ofPatterns base.bytes (fs.patternsIn file)

/-- What is said of the malformed patterns in a file. Where there are any, the line at which reading
stopped because it is no text is told as well. -/
def faultsIn (fs : FileSystem) (file : Path) : List String :=
  match fs.readBytes file with
  | .error _ => []
  | .ok content =>
    let place (number : Nat) : String := file.display ++ ": line " ++ toString number ++ ": "
    let malformed := (RuleSet.patterns content).filterMap fun (number, pattern) =>
      (Rule.fault? pattern).map fun error =>
        place number ++ "error parsing glob '" ++ String.ofList pattern ++ "': " ++ error.message
    let read := (RuleSet.texts content).length
    if malformed.isEmpty || read == (RuleSet.lines content).length then malformed
    else malformed ++ [place (read + 1) ++ AccessError.notText.message]

/-- What is said of the rule files of a directory. -/
def faultsOf (fs : FileSystem) (directory : Path) : List String :=
  RuleFile.all.flatMap fun file => fs.faultsIn (file.path directory)

end FileSystem

end ProjectContext
