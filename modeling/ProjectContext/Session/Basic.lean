import ProjectContext.Cache
import ProjectContext.Context.Insights
import ProjectContext.Discovery.Ignoring
import ProjectContext.Session.Config
import ProjectContext.Session.Log

/-!
# Sessions

A session knows the files of a project and the files that a conversation has mentioned, and builds
the context map of both. The functions take the source as it is at the time and give back the
session as it is afterwards.
-/

namespace ProjectContext

inductive SessionError
  | scan (error : ScanError)
  | pattern (error : InvalidPattern)
  | missingConversationFile (p : Path)
  | fileAccess (failure : ReadFailure)
deriving DecidableEq, Repr

def SessionError.message : SessionError → String
  | .scan error => error.message
  | .pattern error => error.message
  | .missingConversationFile p => "Conversation file does not exist: " ++ p.display
  | .fileAccess failure => failure.message

/-- A session. The paths that the conversation has mentioned are kept as they were first spelled. -/
structure Session where
  root : Path
  files : List DiscoveredFile
  registered : PathMap Unit := .empty
  cache : Cache := {}
  extractor : Extractor
  policy : RegistrationPolicy := .warn
  log : List LogEvent := []

namespace Session

def start (fs : FileSystem) (root : Path) (config : Config) : Except SessionError Session := do
  let files ← (fs.scan root config.respectIgnoreFiles config.mode.fileKinds).mapError .scan
  let extractor ← (Extractor.ofMode config.mode).mapError .pattern
  return { root, files, extractor, policy := config.policy
           log := [.discovered files.length root] }

def logged (s : Session) (e : LogEvent) : Session := { s with log := s.log ++ [e] }

/-! ## Registration -/

def isRegistered (s : Session) (p : Path) : Bool := s.registered.contains p

def conversationFiles (s : Session) : List Path := s.registered.keys

/-- Registers a path that the conversation mentions. One that does not exist is skipped or refused,
as the policy says. -/
def register (s : Session) (source : Source) (p : Path) : Except SessionError Bool × Session :=
  if source.holds p then
    (.ok true, { s with registered := s.registered.insert p () }.logged (.registered p))
  else match s.policy with
    | .warn => (.ok false, s.logged (.missing p))
    | .reject => (.error (.missingConversationFile p), s)

/-- Registers paths in turn, up to the first that is refused, and counts those that exist. -/
def registerAll (s : Session) (source : Source) : List Path → Except SessionError Nat × Session
  | [] => (.ok 0, s)
  | p :: rest =>
    match s.register source p with
    | (.error error, s) => (.error error, s)
    | (.ok known, s) =>
      let (count, s) := s.registerAll source rest
      (count.map fun n => if known then n + 1 else n, s)

/-! ## Generation -/

/-- The files of the context, with their kinds: the registered ones under their spelling, and the
project's, whose kinds are known from the search. -/
def members (s : Session) : PathMap (Option FileKind) :=
  (PathMap.ofList (s.conversationFiles.map fun p => (p, FileKind.ofPath? p))).insertAll
    (s.files.map fun file => (file.path, some file.kind))

def readFile (s : Session) (source : Source) (p : Path) : Except ReadFailure Content × Session :=
  let known := s.cache.contains p
  match s.cache.read source p with
  | (.ok content, cache) =>
    let s := { s with cache }
    (.ok content,
      if known then s else s.logged (.read p (Bytes.ofString content.text).length))
  | (.error failure, cache) => (.error failure, { s with cache })

def facts (s : Session) (p : Path) (kind : Option FileKind) (content : Content) : FileFacts :=
  let symbols := s.extractor.symbolsOfKind kind content.text
  { functions := symbols.functions
    classes := symbols.classes
    isConversationFile := s.isRegistered p
    contentHash := content.hash }

/-- The entries of the context, up to the first file that cannot be read. -/
def collect (s : Session) (source : Source) :
    List (Path × Option FileKind) → Except ReadFailure (List (Path × FileFacts)) × Session
  | [] => (.ok [], s)
  | (p, kind) :: rest =>
    match s.readFile source p with
    | (.error failure, s) => (.error failure, s)
    | (.ok content, s) =>
      match s.collect source rest with
      | (.error failure, s) => (.error failure, s)
      | (.ok entries, after) => (.ok ((p, s.facts p kind content) :: entries), after)

/-- The context map. The first file in order that cannot be read makes it fail. -/
def generate (s : Session) (source : Source) : Except ReadFailure ContextMap × Session :=
  match s.collect source s.members.entries with
  | (.error failure, s) => (.error failure, s)
  | (.ok entries, s) =>
    let context := PathMap.ofList entries
    (.ok context, s.logged (.generated context.size))

def insights (s : Session) (source : Source) : Except ReadFailure Insights × Session :=
  let (context, s) := s.generate source
  (context.map .ofContext, s)

def report (s : Session) (source : Source) : Except ReadFailure String × Session :=
  let (i, s) := s.insights source
  (i.map Insights.report, s)

end Session

end ProjectContext
