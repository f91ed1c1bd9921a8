import ProjectContext.FileTree.Update
import ProjectContext.Json.Reader

/-!
# Listings of files

A listing gives a file tree line by line. Each line is a JSON object that has the path of an entry
under `path`, and under `text` the content of a file or under `link` the target of a link; an entry
with neither is a directory. Entries come to stand below the top directory, where relative paths
start from and where the home directory is.
-/

namespace ProjectContext

open Json

def Entry.ofLine? (line : String) : Option (Path × Entry) := do
  let .object members ← Value.read line | none
  let named := members.filterMap fun (name, value) => name.map (·, value)
  let text? (name : String) : Option String := (Value.only? name named).bind Value.text?
  let path := Path.ofString (← text? "path")
  return match text? "text", text? "link" with
    | some text, _ => (path, .file (.ofString text))
    | none, some target => (path, .link (.ofString target))
    | none, none => (path, .directory [])

def FileSystem.ofListing? (lines : List String) : Option FileSystem := do
  let entries ← lines.mapM Entry.ofLine?
  return entries.foldl (fun fs entry => fs.create entry.1 entry.2) {}

end ProjectContext
