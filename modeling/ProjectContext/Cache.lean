import ProjectContext.Sha256
import ProjectContext.Source

/-!
# The cache of file contents

Once a path has been read, its content stays as it was then, under all spellings of the path. A read
that fails leaves no trace but the attempt.
-/

namespace ProjectContext

structure Content where
  text : String
  hash : String
deriving DecidableEq, Repr

def Content.ofText (text : String) : Content := ⟨text, Sha256.hexDigest text⟩

structure ReadFailure where
  path : Path
  error : AccessError
deriving DecidableEq, Repr

def ReadFailure.message (f : ReadFailure) : String :=
  "Failed to read " ++ f.path.display ++ ": " ++ f.error.message

/-- The contents read so far, and every path that the source has been asked to read, in order. -/
structure Cache where
  contents : PathMap Content := .empty
  attempts : List Path := []

namespace Cache

def get? (c : Cache) (p : Path) : Option Content := c.contents.get? p

def contains (c : Cache) (p : Path) : Bool := c.contents.contains p

def size (c : Cache) : Nat := c.contents.size

def isEmpty (c : Cache) : Bool := c.contents.isEmpty

/-- How often the source has been asked to read a path, in whatever spelling. -/
def attemptsAt (c : Cache) (p : Path) : Nat := c.attempts.countP fun q => decide (q.Same p)

/-- The content of a path, which the source is asked for unless it is known. -/
def read (c : Cache) (source : Source) (p : Path) : Except ReadFailure Content × Cache :=
  match c.get? p with
  | some content => (.ok content, c)
  | none =>
    let attempts := c.attempts ++ [p]
    match source.read p with
    | .ok text =>
      let content := Content.ofText text
      (.ok content, { contents := c.contents.insert p content, attempts })
    | .error error => (.error ⟨p, error⟩, { c with attempts })

end Cache

end ProjectContext
