import ProjectContext.Pattern.Match

/-!
# Matchers of declarations

A matcher recognizes the declarations of functions and classes in a text. The built-in ones do so by
two patterns, one for each kind.
-/

namespace ProjectContext

/-- The two things whose declarations are looked for. -/
inductive DeclarationKind
  | functions
  | classes
deriving DecidableEq, Repr

def DeclarationKind.name : DeclarationKind → String
  | .functions => "function"
  | .classes => "class"

/-- A matcher could not be built: the matcher's name, and which of its patterns is none. -/
structure InvalidPattern where
  matcher : String
  kind : DeclarationKind
deriving DecidableEq, Repr

def InvalidPattern.message (e : InvalidPattern) : String :=
  "Invalid " ++ e.kind.name ++ " pattern for " ++ e.matcher ++ ": "

/-- The names declared in a text, in order of appearance, with repetitions. -/
structure Symbols where
  functions : List String := []
  classes : List String := []
deriving DecidableEq, Repr

def Symbols.isEmpty (s : Symbols) : Bool := s.functions.isEmpty && s.classes.isEmpty

/-- What recognizes declarations, under a short name. What it extracts from a text is what it lists of
both kinds, unless it says otherwise. -/
structure Matcher where
  name : String
  functions : String → List String
  classes : String → List String
  symbols : String → Symbols := fun text => ⟨functions text, classes text⟩

/-- A matcher that two patterns make up, each of which has the declared name in its first group. -/
structure PatternMatcher where
  name : String
  functionPattern : Pattern.Node
  classPattern : Pattern.Node

namespace PatternMatcher

variable (support : Pattern.Support)

def readPattern (matcher : String) (kind : DeclarationKind) (pattern : String) :
    Except InvalidPattern Pattern.Node :=
  match Pattern.Node.read support pattern.toList with
  | .ok node => .ok node
  | .error _ => .error ⟨matcher, kind⟩

/-- The matcher of two written patterns; the one for functions is read first. -/
def ofPatterns (name functionPattern classPattern : String) :
    Except InvalidPattern PatternMatcher := do
  let functionPattern ← readPattern support name .functions functionPattern
  let classPattern ← readPattern support name .classes classPattern
  return { name, functionPattern, classPattern }

def functions (m : PatternMatcher) (text : String) : List String :=
  m.functionPattern.groupTexts text.toList

def classes (m : PatternMatcher) (text : String) : List String :=
  m.classPattern.groupTexts text.toList

def toMatcher (m : PatternMatcher) : Matcher where
  name := m.name
  functions := m.functions
  classes := m.classes

end PatternMatcher

/-- The languages whose declarations the library knows. -/
inductive Convention
  | python
  | javaScript
  | java
deriving DecidableEq, Repr

namespace Convention

def all : List Convention := [.python, .javaScript, .java]

def name : Convention → String
  | .python => "python"
  | .javaScript => "javascript"
  | .java => "java"

def ofName? (name : String) : Option Convention := all.find? fun c => c.name == name

def functionPattern : Convention → String
  | .python => "def\\s+(\\w+)\\s*\\(.*?\\):"
  | .javaScript => "function\\s+(\\w+)\\s*\\("
  | .java =>
    "(?:public|private|protected|static|\\s) +[\\w<>\\[\\]]+\\s+(\\w+) *\\([^)]*\\) *\\\x7B?"

def classPattern : Convention → String
  | .python => "class\\s+(\\w+)(?:\\(.*?\\))?:"
  | .javaScript | .java => "class\\s+(\\w+)"

def matcher? (c : Convention) : Except InvalidPattern PatternMatcher :=
  PatternMatcher.ofPatterns .standard c.name c.functionPattern c.classPattern

end Convention

end ProjectContext
