import ProjectContext.Path.Map

/-!
# Context maps

What is known about the files of a project, in the order of their paths.
-/

namespace ProjectContext

structure FileFacts where
  functions : List String
  classes : List String
  isConversationFile : Bool
  contentHash : String
deriving DecidableEq, Repr

abbrev ContextMap := PathMap FileFacts

/-- The entries of the files that the conversation mentions, in the order of paths. -/
def ContextMap.conversationEntries (m : ContextMap) : List (Path × FileFacts) :=
  m.entries.filter fun e => e.2.isConversationFile

end ProjectContext
