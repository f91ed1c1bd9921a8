import ProjectContext.FileKind
import ProjectContext.Matcher

/-!
# The choice of a matcher for a file

An extractor assigns matchers to kinds of files and has, it may be, one more for all files without
an assigned one.
-/

namespace ProjectContext

inductive ExtractionMode
  /-- One convention for every file. -/
  | uniform (convention : Convention)
  /-- Each convention for the kind of its own language. -/
  | byFileKind
deriving DecidableEq, Repr

namespace ExtractionMode

def standard : ExtractionMode := .uniform .python

def fileKinds : ExtractionMode → List FileKind
  | .uniform .java | .byFileKind => FileKind.standard ++ [.java]
  | .uniform _ => FileKind.standard

end ExtractionMode

structure Extractor where
  fallback : Option Matcher
  assigned : FileKind → Option Matcher

namespace Extractor

def empty : Extractor := ⟨none, fun _ => none⟩

def uniform (m : Matcher) : Extractor := ⟨some m, fun _ => none⟩

/-- The extractor with `m` assigned to `kind`, in place of what was assigned to it before. -/
def withMatcher (x : Extractor) (kind : FileKind) (m : Matcher) : Extractor :=
  { x with assigned := fun other => if other = kind then some m else x.assigned other }

def ofMode : ExtractionMode → Except InvalidPattern Extractor
  | .uniform convention => do return uniform (← convention.matcher?).toMatcher
  | .byFileKind => do
    let python ← Convention.python.matcher?
    let javaScript ← Convention.javaScript.matcher?
    let java ← Convention.java.matcher?
    return ((empty.withMatcher .python python.toMatcher).withMatcher .javaScript
      javaScript.toMatcher).withMatcher .java java.toMatcher

def matcherFor? (x : Extractor) (kind : Option FileKind) : Option Matcher :=
  (kind.bind x.assigned).or x.fallback

def symbolsOfKind (x : Extractor) (kind : Option FileKind) (text : String) : Symbols :=
  match x.matcherFor? kind with
  | some m => m.symbols text
  | none => {}

def symbolsOfFile (x : Extractor) (p : Path) (text : String) : Symbols :=
  x.symbolsOfKind (FileKind.ofPath? p) text

/-! ## Listing -/

def hexDigits (n : Nat) : List Char := Nat.toDigits 16 n

def quoteChar : Char → List Char
  | '"' => ['\\', '"']
  | '\\' => ['\\', '\\']
  | '\n' => ['\\', 'n']
  | '\r' => ['\\', 'r']
  | '\t' => ['\\', 't']
  | '\x00' => ['\\', '0']
  | c => if Unicode.isShown c then [c] else ['\\', 'u', '\x7B'] ++ hexDigits c.toNat ++ ['\x7D']

def quote (text : String) : String :=
  "\"" ++ String.ofList (text.toList.flatMap quoteChar) ++ "\""

/-- The names of the matchers, those assigned to kinds in the order of kinds. -/
def listing (x : Extractor) : String :=
  let fallback := match x.fallback with
    | some m => "Some(" ++ quote m.name ++ ")"
    | none => "None"
  let assigned := FileKind.all.filterMap fun kind => (x.assigned kind).map fun m =>
    "(" ++ kind.label ++ ", " ++ quote m.name ++ ")"
  "SymbolExtractor \x7B fallback: " ++ fallback ++ ", by_kind: [" ++ ", ".intercalate assigned ++
    "] \x7D"

end Extractor

end ProjectContext
