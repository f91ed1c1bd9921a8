import ProjectContext.CommandLine.Invocation
import ProjectContext.Context.Codec
import ProjectContext.Session.Basic

/-!
# Rendering

A command opens a session, registers the files that the conversation mentions, builds the context
map and writes it down in the form that it is asked for. The first step that fails ends it.
-/

namespace ProjectContext.CommandLine

inductive Failure
  | opening (root : Path) (error : SessionError)
  | session (error : SessionError)
  | encoding
deriving DecidableEq, Repr

namespace Failure

def message : Failure → String
  | .opening root _ => "Failed to scan " ++ root.display
  | .session error => error.message
  | .encoding => encodingFailure

def cause? : Failure → Option String
  | .opening _ error => some error.message
  | .session (.fileAccess failure) => some failure.error.message
  | .session _ | .encoding => none

def summary (f : Failure) : String :=
  match f.cause? with
  | some cause => f.message ++ ": " ++ cause
  | none => f.message

end Failure

structure Rendering where
  result : Except Failure String
  log : List LogEvent

/-- What is logged when `count` of `total` conversation files have been registered. -/
def registrationEvents (count total : Nat) : List LogEvent :=
  if total = 0 then [] else [.registeredOf count total]

/-- The session that the arguments set up, with the conversation files registered. A failure comes
with the log up to it. -/
def SessionArgs.openSession (args : SessionArgs) (fs : FileSystem) :
    Except (Failure × List LogEvent) Session :=
  let scanning := LogEvent.scanning args.path
  match Session.start fs args.path args.config with
  | .error error => .error (.opening args.path error, [scanning])
  | .ok s =>
    let s := { s with log := scanning :: s.log }.logged (.found s.files.length)
    match s.registerAll (Source.ofFiles fs) args.conversationFiles with
    | (.error error, s) => .error (.session error, s.log)
    | (.ok count, s) =>
      .ok { s with log := s.log ++ registrationEvents count args.conversationFiles.length }

namespace Command

def write (c : Command) (m : ContextMap) : Except Failure String :=
  let written := match c with
    | .report _ .text => some (Insights.ofContext m).report
    | .report _ .json => (Insights.ofContext m).toJsonText?
    | .context _ => m.toJsonText?
  match written with
  | some text => .ok text
  | none => .error .encoding

def collectedEvents (c : Command) (m : ContextMap) : List LogEvent :=
  match c with
  | .report _ _ => []
  | .context _ => [.collected m.size]

def render (c : Command) (fs : FileSystem) : Rendering :=
  match c.session.openSession fs with
  | .error (failure, log) => ⟨.error failure, log⟩
  | .ok s =>
    match s.generate (Source.ofFiles fs) with
    | (.error failure, s) => ⟨.error (.session (.fileAccess failure)), s.log⟩
    | (.ok m, s) => ⟨c.write m, s.log ++ c.collectedEvents m⟩

end Command

end ProjectContext.CommandLine
