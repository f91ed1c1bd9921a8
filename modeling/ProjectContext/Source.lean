import ProjectContext.FileTree.Basic
import ProjectContext.Path.Map

/-!
# Sources of content

What a source answers at one moment. A source that changes is a different source at each moment, so
the functions that read take the source as an argument.
-/

namespace ProjectContext

/-- Which paths exist, and what reading them gives. -/
structure Source where
  holds : Path → Bool
  read : Path → Except AccessError String

def Source.Uniform (s : Source) : Prop :=
  ∀ p q : Path, p.Same q → s.holds p = s.holds q ∧ s.read p = s.read q

def Source.ofFiles (fs : FileSystem) : Source := ⟨fs.pathExists, fs.readText⟩

def Source.ofTexts (texts : PathMap String) : Source where
  holds := texts.contains
  read p := match texts.get? p with
    | some text => .ok text
    | none => .error .absent

end ProjectContext
