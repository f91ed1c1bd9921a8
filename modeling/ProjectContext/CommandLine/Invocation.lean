import ProjectContext.Session.Config

/-!
# Invocations

What a command line asks for, and why one asks for nothing that can be done.
-/

namespace ProjectContext.CommandLine

inductive ConventionChoice
  | python
  | javascript
  | java
  | auto
deriving DecidableEq, Repr

namespace ConventionChoice

def all : List ConventionChoice := [.python, .javascript, .java, .auto]

def name : ConventionChoice → String
  | .python => "python"
  | .javascript => "javascript"
  | .java => "java"
  | .auto => "auto"

def mode : ConventionChoice → ExtractionMode
  | .python => .uniform .python
  | .javascript => .uniform .javaScript
  | .java => .uniform .java
  | .auto => .byFileKind

end ConventionChoice

inductive OutputFormat
  | text
  | json
deriving DecidableEq, Repr

namespace OutputFormat

def all : List OutputFormat := [.text, .json]

def name : OutputFormat → String
  | .text => "text"
  | .json => "json"

end OutputFormat

structure SessionArgs where
  path : Path
  conversationFiles : List Path := []
  strict : Bool := false
  gitignore : Bool := false
  convention : ConventionChoice := .python
deriving DecidableEq, Repr

def SessionArgs.config (a : SessionArgs) : Config where
  respectIgnoreFiles := a.gitignore
  policy := if a.strict then .reject else .warn
  mode := a.convention.mode

inductive Command
  | report (session : SessionArgs) (format : OutputFormat)
  | context (session : SessionArgs)
deriving DecidableEq, Repr

def Command.session : Command → SessionArgs
  | .report session _ => session
  | .context session => session

/-- A command, and whether the log shows everything. -/
structure Invocation where
  verbose : Bool
  command : Command
deriving DecidableEq, Repr

inductive HelpTopic
  | program
  | report
  | context
  | help
deriving DecidableEq, Repr

inductive UsageError
  | help (topic : HelpTopic) (long : Bool)
  | version
  | noArguments
  | missingSubcommand
  | invalidSubcommand
  | unknownArgument
  | invalidValue
  | tooManyValues
  | argumentConflict
  | missingRequiredArgument
deriving DecidableEq, Repr

end ProjectContext.CommandLine
