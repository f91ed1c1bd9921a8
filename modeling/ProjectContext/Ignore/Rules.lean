import ProjectContext.Ignore.Glob
import ProjectContext.Path.Basic

/-!
# Ignore rules

The lines of an ignore file, and what they say about a path: the last line that matches decides.
-/

namespace ProjectContext.Ignore

inductive Verdict
  | ignore
  | keep
deriving DecidableEq, Repr

structure Rule where
  glob : Glob
  verdict : Verdict
  onlyDirectories : Bool

namespace Rule

def trimEnd (line : List Char) : List Char :=
  (line.reverse.dropWhile Unicode.isSpace).reverse

/-- A line without trailing white space, unless it ends in an escaped blank. -/
def trim (line : List Char) : List Char :=
  if ['\\', ' '].isSuffixOf line then line else trimEnd line

/-- The verdict that a line stands for, whether a separator anchors it, and its glob. -/
def splitSigns : List Char → Verdict × Bool × List Char
  | '\\' :: '!' :: rest => (.ignore, false, '!' :: rest)
  | '\\' :: '#' :: rest => (.ignore, false, '#' :: rest)
  | '!' :: '/' :: rest => (.keep, true, rest)
  | '!' :: rest => (.keep, false, rest)
  | '/' :: rest => (.ignore, true, rest)
  | line => (.ignore, false, line)

/-- A separator at the end restricts the line to directories; a backslash in front of it goes with
it. -/
def splitSlash (line : List Char) : Bool × List Char :=
  match line.reverse with
  | '/' :: '\\' :: rest => (true, rest.reverse)
  | '/' :: rest => (true, rest.reverse)
  | _ => (false, line)

/-- The glob over the whole path: a line that is not anchored and has no separator holds at any
depth, and one that ends in `/**` holds below the directory only. -/
def wholePath (anchored : Bool) (line : List Char) : List Char :=
  let anywhere := !anchored && !line.contains '/' && line ≠ ['*', '*']
  let line := if anywhere then '*' :: '*' :: '/' :: line else line
  if ['/', '*', '*'].isSuffixOf line then line ++ ['/', '*'] else line

/-- The pattern that a line is; a comment and an empty line are none. -/
def pattern? (line : List Char) : Option (List Char) :=
  match line with
  | '#' :: _ => none
  | line =>
    match trim line with
    | [] => none
    | pattern => some pattern

def ofPattern (pattern : List Char) : Except GlobError Rule := do
  let (verdict, anchored, line) := splitSigns pattern
  let (onlyDirectories, line) := splitSlash line
  return { glob := ← Glob.read (wholePath anchored line), verdict, onlyDirectories }

/-- What is wrong with a malformed pattern. -/
def fault? (pattern : List Char) : Option GlobError :=
  match ofPattern pattern with
  | .ok _ => none
  | .error error => some error

end Rule

/-- The rules of a file, which are about the paths below a directory. -/
structure RuleSet where
  base : Bytes
  rules : List Rule

namespace RuleSet

def currentDirectory : Bytes := [0x2E, 0x2F]

def slashByte : UInt8 := 0x2F

def dropStart (start bytes : Bytes) : Bytes := (Bytes.dropStart? start bytes).getD bytes

def withoutDot (bytes : Bytes) : Bytes := dropStart currentDirectory bytes

def relative (base path : Bytes) : Bytes :=
  let path := withoutDot path
  if Path.components ⟨base⟩ ≠ [.current] ∧ slashByte ∈ path then
    match Bytes.dropStart? base path with
    | some rest => dropStart [slashByte] rest
    | none => path
  else path

def verdict? (set : RuleSet) (path : Bytes) (isDirectory : Bool) : Option Verdict :=
  let path := relative set.base path
  (set.rules.reverse.find? fun rule =>
    (!rule.onlyDirectories || isDirectory) && rule.glob.holds path).map (·.verdict)

/-- The lines of a file: a line ends in a line feed, with or without a carriage return. -/
def lines (content : Bytes) : List Bytes :=
  let parts := Bytes.splitOn 0x0A content
  let parts := if parts.getLast? = some [] then parts.dropLast else parts
  parts.zipIdx.map fun (line, i) =>
    if line.getLast? = some 0x0D ∧ (i + 1 < parts.length ∨ content.getLast? = some 0x0A) then
      line.dropLast
    else line

/-- The texts of the lines up to the first one that is no text, without byte order marks in front.
-/
def texts (content : Bytes) : List (List Char) :=
  let texts := ((lines content).map Utf8.decode?).takeWhile (·.isSome)
  match texts.filterMap (·.map String.toList) with
  | [] => []
  | first :: rest => first.dropWhile (· == '\uFEFF') :: rest

/-- The patterns of a file, each with the number of its line. -/
def patterns (content : Bytes) : List (Nat × List Char) :=
  (texts content).zipIdx.filterMap fun (line, i) => (Rule.pattern? line).map (i + 1, ·)

/-- The rules of some patterns. One whose glob is malformed gives none. -/
def ofPatterns (base : Bytes) (patterns : List (Nat × List Char)) : RuleSet where
  base := withoutDot base
  rules := patterns.filterMap fun (_, pattern) => (Rule.ofPattern pattern).toOption

end RuleSet

end ProjectContext.Ignore
