import ProjectContext.Path.Basic

/-!
# Kinds of files

A file is recognized by the extension of its name, compared literally.
-/

namespace ProjectContext

inductive FileKind
  | python
  | javaScript
  | html
  | css
  | json
  | java
deriving DecidableEq, Repr

namespace FileKind

def all : List FileKind := [.python, .javaScript, .html, .css, .json, .java]

def standard : List FileKind := [.python, .javaScript, .html, .css, .json]

def extension : FileKind → String
  | .python => "py"
  | .javaScript => "js"
  | .html => "html"
  | .css => "css"
  | .json => "json"
  | .java => "java"

def display : FileKind → String
  | .python => "python"
  | .javaScript => "javascript"
  | .html => "html"
  | .css => "css"
  | .json => "json"
  | .java => "java"

def name : FileKind → String
  | .javaScript => "java_script"
  | kind => kind.display

/-- The name of the kind among the kinds of this library, as listings for debugging show it. -/
def label : FileKind → String
  | .python => "Python"
  | .javaScript => "JavaScript"
  | .html => "Html"
  | .css => "Css"
  | .json => "Json"
  | .java => "Java"

def ofName? (name : String) : Option FileKind := all.find? fun kind => kind.name == name

def ofExtension? (extension : Bytes) : Option FileKind :=
  all.find? fun kind => Bytes.ofString kind.extension == extension

def ofPath? (p : Path) : Option FileKind := p.extension?.bind ofExtension?

theorem ofPath?_eq_of_same {p q : Path} (h : p.Same q) : ofPath? p = ofPath? q := by
  simp only [ofPath?, Path.extension?, Path.fileName?]
  rw [show p.components = q.components from h]

end FileKind

structure DiscoveredFile where
  path : Path
  kind : FileKind
deriving DecidableEq, Repr

def DiscoveredFile.ofPath? (p : Path) : Option DiscoveredFile :=
  (FileKind.ofPath? p).map fun kind => ⟨p, kind⟩

theorem DiscoveredFile.ofPath?_eq_some {p : Path} {file : DiscoveredFile} :
    ofPath? p = some file ↔ file.path = p ∧ FileKind.ofPath? p = some file.kind := by
  obtain ⟨path, kind⟩ := file
  rw [ofPath?, Option.map_eq_some_iff]
  constructor
  · rintro ⟨found, known, made⟩
    cases made
    exact ⟨rfl, known⟩
  · rintro ⟨rfl, known⟩
    exact ⟨kind, known, rfl⟩

end ProjectContext
