import ProjectContext.CommandLine.Help
import ProjectContext.CommandLine.Rendering
import ProjectContext.CommandLine.Words

/-!
# Outcomes

What a run of the program leaves behind: an exit code, the text of the command on the standard
output, and on the standard error the log and what has failed.
-/

namespace ProjectContext.CommandLine

structure Outcome where
  code : UInt32
  output : String := ""
  errors : String := ""
deriving DecidableEq, Repr

def logLevel (verbose : Bool) : LogLevel := if verbose then .debug else .info

def logText (verbose : Bool) (log : List LogEvent) : String :=
  textOfLines ((LogEvent.fromLevel (logLevel verbose) log).map LogEvent.terminalLine)

def indent (text : String) : String :=
  String.ofList ("    ".toList ++ text.toList.flatMap fun c =>
    if c = '\n' then "\n    ".toList else [c])

def Failure.text (f : Failure) : String :=
  textOfLines (("Error: " ++ f.message) :: match f.cause? with
    | some cause => ["", "Caused by:", indent cause]
    | none => [])

/-- What is printed about a refused command line is left out. -/
def UsageError.outcome : UsageError → Outcome
  | .help topic long => { code := 0, output := topic.text long }
  | .version => { code := 0, output := versionText }
  | .noArguments => { code := 2, errors := HelpTopic.text .program false }
  | _ => { code := 2 }

def Invocation.outcome (i : Invocation) (fs : FileSystem) : Outcome :=
  let rendering := i.command.render fs
  let log := logText i.verbose rendering.log
  match rendering.result with
  | .ok text => { code := 0, output := text ++ "\n", errors := log }
  | .error failure => { code := 1, errors := log ++ failure.text }

def run (fs : FileSystem) (words : List Bytes) : Outcome :=
  match read words with
  | .ok invocation => invocation.outcome fs
  | .error e => e.outcome

end ProjectContext.CommandLine
