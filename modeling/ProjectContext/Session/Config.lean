import ProjectContext.Extractor

/-!
# Configuration of sessions
-/

namespace ProjectContext

/-- What to do with a conversation file that does not exist. -/
inductive RegistrationPolicy
  | warn
  | reject
deriving DecidableEq, Repr

structure Config where
  respectIgnoreFiles : Bool := false
  policy : RegistrationPolicy := .warn
  mode : ExtractionMode := .standard
deriving DecidableEq, Repr

end ProjectContext
