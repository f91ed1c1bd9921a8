import ProjectContext.Context.Map

/-!
# Insights

The totals of a context map, the files that the conversation mentions, and the report on both. Totals
are counted in machine words.
-/

namespace ProjectContext

/-- The symbols of a file that the conversation mentions. -/
structure ConversationFile where
  path : Path
  functions : List String
  classes : List String
deriving DecidableEq, Repr

/-- A machine word stands for its number. -/
instance coeWord : Coe UInt64 Nat := ⟨UInt64.toNat⟩

structure Insights where
  totalFiles : UInt64 := 0
  totalFunctions : UInt64 := 0
  totalClasses : UInt64 := 0
  conversationFiles : List ConversationFile := []
deriving DecidableEq, Repr

namespace Insights

def ofContext (m : ContextMap) : Insights where
  totalFiles := m.size.toUInt64
  totalFunctions := (m.entries.map fun e => e.2.functions.length.toUInt64).foldr (· + ·) 0
  totalClasses := (m.entries.map fun e => e.2.classes.length.toUInt64).foldr (· + ·) 0
  conversationFiles := (ContextMap.conversationEntries m).map fun e =>
    ⟨e.1, e.2.functions, e.2.classes⟩

def fileLines (f : ConversationFile) : String :=
  "\n- " ++ f.path.display ++ "\n  Functions: " ++ ", ".intercalate f.functions ++
    "\n  Classes: " ++ ", ".intercalate f.classes

def report (i : Insights) : String :=
  "Project Overview:\n- Total files analyzed: " ++ toString i.totalFiles ++
    "\n- Total functions found: " ++ toString i.totalFunctions ++
    "\n- Total classes found: " ++ toString i.totalClasses ++
    if i.conversationFiles.isEmpty then ""
    else "\n\nFiles mentioned in conversation:" ++ String.join (i.conversationFiles.map fileLines)

end Insights

end ProjectContext
