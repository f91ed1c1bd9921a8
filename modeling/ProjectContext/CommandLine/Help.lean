import ProjectContext.CommandLine.Invocation

/-!
# Help texts

A page of help says what a subcommand does, how it is called, and what its arguments and options
are. The brief page gives each of them one line; the long one gives them paragraphs.
-/

namespace ProjectContext.CommandLine

/-- An argument or option as help spells it, and what is said about it in brief and at length. -/
structure HelpEntry where
  spelling : String
  brief : String
  paragraphs : List (List String) := [[brief]]

namespace HelpEntry

def margin : String := "          "

def briefLines (e : HelpEntry) : List String := ["  " ++ e.spelling, margin ++ e.brief]

def longLines (e : HelpEntry) : List String :=
  ("  " ++ e.spelling) ::
    [""].intercalate (e.paragraphs.map fun lines => lines.map (margin ++ ·))

end HelpEntry

/-! ## The entries -/

def pathEntry : HelpEntry where
  spelling := "<PATH>"
  brief := "Project root to scan"

def sessionEntries : List HelpEntry :=
  [{ spelling := "-c, --conversation-file <CONVERSATION_FILES>"
     brief := "File relevant to the conversation (repeatable)" },
   { spelling := "-v, --verbose"
     brief := "Enable verbose output" },
   { spelling := "    --strict"
     brief := "Fail when a conversation file does not exist instead of warning" },
   { spelling := "    --gitignore"
     brief := "Skip files excluded by .gitignore rules" },
   { spelling := "    --convention <CONVENTION>"
     brief := "Declaration syntax to match [default: python] " ++
       "[possible values: python, javascript, java, auto]"
     paragraphs :=
       [["Declaration syntax to match"],
        ["Possible values:",
         "- python",
         "- javascript",
         "- java:       Java patterns; also picks up `.java` sources",
         "- auto:       Choose by file extension, `.java` included",
         "",
         "[default: python]"]] }]

def formatEntry : HelpEntry where
  spelling := "    --format <FORMAT>"
  brief := "Output format [default: text] [possible values: text, json]"
  paragraphs := [["Output format", "", "[default: text]", "[possible values: text, json]"]]

def helpEntry (long : Bool) : HelpEntry where
  spelling := "-h, --help"
  brief := if long then "Print help (see a summary with '-h')"
    else "Print help (see more with '--help')"

/-! ## The pages -/

def summaryOfReport : String := "Summarize a project and the files mentioned in a conversation"

def summaryOfContext : String := "Print the per-file context map as JSON"

def summaryOfHelp : String := "Print this message or the help of the given subcommand(s)"

def sessionPage (name summary : String) (options : List HelpEntry) (long : Bool) : List String :=
  let entries := options ++ [helpEntry long]
  [summary, "", "Usage: contextgen " ++ name ++ " [OPTIONS] <PATH>", "", "Arguments:"] ++
    (if long then pathEntry.longLines
      else ["  " ++ pathEntry.spelling ++ "  " ++ pathEntry.brief]) ++
    ["", "Options:"] ++
    if long then [""].intercalate (entries.map HelpEntry.longLines)
    else entries.flatMap HelpEntry.briefLines

def programPage : List String :=
  ["Project context summaries for coding conversations",
   "",
   "Usage: contextgen [OPTIONS] <COMMAND>",
   "",
   "Commands:",
   "  report   " ++ summaryOfReport,
   "  context  " ++ summaryOfContext,
   "  help     " ++ summaryOfHelp,
   "",
   "Options:",
   "  -v, --verbose  Enable verbose output",
   "  -h, --help     Print help",
   "  -V, --version  Print version"]

def helpPage : List String :=
  [summaryOfHelp,
   "",
   "Usage: contextgen help [COMMAND]...",
   "",
   "Arguments:",
   "  [COMMAND]...  Print help for the subcommand(s)"]

def HelpTopic.page (long : Bool) : HelpTopic → List String
  | .program => programPage
  | .report => sessionPage "report" summaryOfReport (sessionEntries ++ [formatEntry]) long
  | .context => sessionPage "context" summaryOfContext sessionEntries long
  | .help => helpPage

def textOfLines (lines : List String) : String := String.join (lines.map (· ++ "\n"))

def HelpTopic.text (topic : HelpTopic) (long : Bool) : String := textOfLines (topic.page long)

def versionText : String := "contextgen 0.1.0\n"

end ProjectContext.CommandLine
