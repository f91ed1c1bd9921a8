import ProjectContext.Context.Insights
import ProjectContext.FileKind
import ProjectContext.Json.Reader

/-!
# The JSON form of the library's data

Each type has an encoder into JSON values and a decoder back. A path is encoded as its text, so a
value with a path that is no text has no JSON form.
-/

namespace ProjectContext

open Json

def encodingFailure : String := "path contains invalid UTF-8 characters"

/-- A kind is written as its name, or as an object whose only member has that name and no value. -/
def FileKind.ofJson? : Value → Option FileKind
  | .text (some name) => FileKind.ofName? name
  | .object [(some name, .null)] => FileKind.ofName? name
  | _ => none

def FileKind.readJson (text : String) : Option FileKind := (Value.read text).bind FileKind.ofJson?

namespace FileFacts

def fieldNames : List String := ["functions", "classes", "is_conversation_file", "content_hash"]

def toJson (f : FileFacts) : Value :=
  .record [("functions", .ofStrings f.functions), ("classes", .ofStrings f.classes),
    ("is_conversation_file", .boolean f.isConversationFile),
    ("content_hash", .ofString f.contentHash)]

def ofJson? (v : Value) : Option FileFacts := do
  let [functions, classes, isConversationFile, contentHash] ← v.fields? fieldNames | none
  return {
    functions := ← functions.list? Value.text?
    classes := ← classes.list? Value.text?
    isConversationFile := ← isConversationFile.boolean?
    contentHash := ← contentHash.text? }

end FileFacts

namespace ContextMap

def toJson? (m : ContextMap) : Option Value := do
  let members ← m.entries.mapM fun e => e.1.toString?.map fun name => (name, e.2.toJson)
  return .record members

def ofJson? : Value → Option ContextMap
  | .object members => do
    let entries ← members.mapM fun (name, value) => do
      return (Path.ofString (← name), ← FileFacts.ofJson? value)
    return PathMap.ofList entries
  | _ => none

def toJsonText? (m : ContextMap) : Option String := (toJson? m).map Value.pretty

def readJson (text : String) : Option ContextMap := (Value.read text).bind ofJson?

end ContextMap

namespace ConversationFile

def fieldNames : List String := ["path", "functions", "classes"]

def toJson? (f : ConversationFile) : Option Value := do
  let path ← f.path.toString?
  return .record [("path", .ofString path), ("functions", .ofStrings f.functions),
    ("classes", .ofStrings f.classes)]

def ofJson? (v : Value) : Option ConversationFile := do
  let [path, functions, classes] ← v.fields? fieldNames | none
  return {
    path := Path.ofString (← path.text?)
    functions := ← functions.list? Value.text?
    classes := ← classes.list? Value.text? }

end ConversationFile

namespace Insights

def fieldNames : List String :=
  ["total_files", "total_functions", "total_classes", "conversation_files"]

def toJson? (i : Insights) : Option Value := do
  let files ← i.conversationFiles.mapM ConversationFile.toJson?
  return .record [("total_files", .ofWord i.totalFiles),
    ("total_functions", .ofWord i.totalFunctions), ("total_classes", .ofWord i.totalClasses),
    ("conversation_files", .array files)]

def ofJson? (v : Value) : Option Insights := do
  let [files, functions, classes, conversation] ← v.fields? fieldNames | none
  return {
    totalFiles := ← files.word?
    totalFunctions := ← functions.word?
    totalClasses := ← classes.word?
    conversationFiles := ← conversation.list? ConversationFile.ofJson? }

def toJsonText? (i : Insights) : Option String := i.toJson?.map Value.pretty

def readJson (text : String) : Option Insights := (Value.read text).bind ofJson?

end Insights

end ProjectContext
