import ProjectContext.Ignore.Files

/-!
# The ignore file of a user

A setting in the configuration of the version control system names it; without one it has a fixed
place below the home directory.
-/

namespace ProjectContext.Ignore

/-- The setting, on a line of its own and with its value in the first group. Blanks are ASCII. -/
def settingPattern : String :=
  "(?im)^[\\t-\\r ]*excludesfile[\\t-\\r ]*=[\\t-\\r ]*\"?[\\t-\\r ]*" ++
    "([^\\t-\\r ]+?)[\\t-\\r ]*\"?[\\t-\\r ]*$"

/-- The value of the setting in the content of a configuration file, each byte being taken as the
character of its number. -/
def setting? (content : Bytes) : Option String :=
  match Pattern.Node.read .standard settingPattern.toList with
  | .error _ => none
  | .ok node => do
    let text := content.map fun b => Char.ofNat b.toNat
    let (m, _) ← node.findFrom 0 none text
    let (start, stop) ← m.group
    Utf8.decode? ((content.take stop).drop start)

def expandHome (home : Path) (value : String) : Path :=
  .ofString (String.join (value.toList.map fun c => if c = '~' then home.display else toString c))

def globalFile (fs : FileSystem) : Path :=
  let home := FileSystem.pathOf fs.home
  let below (p : Path) (names : List String) : Path :=
    names.foldl (fun p name => p.join (.ofString name)) p
  let named (p : Path) : Option String := (fs.readBytes p).toOption.bind setting?
  match named (below home [".gitconfig"]), named (below home [".config", "git", "config"]) with
  | some value, _ => expandHome home value
  | none, some value => expandHome home value
  | none, none => below home [".config", "git", "ignore"]

/-- The rules of the user, about paths as seen from the working directory. -/
def globalRules (fs : FileSystem) : RuleSet :=
  fs.readRules (FileSystem.pathOf fs.workingDirectory) (globalFile fs)

end ProjectContext.Ignore
