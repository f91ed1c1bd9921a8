import ProjectContext.Path.Basic

/-!
# Log events
-/

namespace ProjectContext

inductive LogLevel
  | debug
  | info
  | warn
deriving DecidableEq, Repr

namespace LogLevel

def name : LogLevel → String
  | .debug => "DEBUG"
  | .info => "INFO"
  | .warn => "WARN"

def settingName : LogLevel → String
  | .debug => "debug"
  | .info => "info"
  | .warn => "warn"

def rank : LogLevel → Nat
  | .debug => 0
  | .info => 1
  | .warn => 2

end LogLevel

/-- What the library logs itself. A log that shows everything has records of the directory walk between
these where ignore rules are respected; they are left out. -/
inductive LogEvent
  | discovered (count : Nat) (root : Path)
  /-- A file has been read for the first time. -/
  | read (p : Path) (size : Nat)
  | missing (p : Path)
  | registered (p : Path)
  | generated (count : Nat)
  | scanning (root : Path)
  | found (count : Nat)
  | registeredOf (count total : Nat)
  | collected (count : Nat)
deriving DecidableEq, Repr

namespace LogEvent

def level : LogEvent → LogLevel
  | .discovered .. | .read .. | .registered _ | .generated _ => .debug
  | .missing _ => .warn
  | .scanning _ | .found _ | .registeredOf .. | .collected _ => .info

def message : LogEvent → String
  | .discovered count root =>
    "Discovered " ++ toString count ++ " files under " ++ root.display
  | .read p size => "Read " ++ p.display ++ " (" ++ toString size ++ " bytes)"
  | .missing p => "File " ++ p.display ++ " does not exist in the project"
  | .registered p => "Registered conversation file " ++ p.display
  | .generated count => "Generated context for " ++ toString count ++ " files"
  | .scanning root => "Scanning project: " ++ root.display
  | .found count => "Found " ++ toString count ++ " project files"
  | .registeredOf count total =>
    "Registered " ++ toString count ++ " of " ++ toString total ++ " conversation files"
  | .collected count => "Collected context for " ++ toString count ++ " files"

def origin : LogEvent → String
  | .discovered .. => "contextgen_core::scanner::walker"
  | .read .. => "contextgen_core::cache"
  | .missing _ | .registered _ | .generated _ => "contextgen_core::context::generator"
  | .scanning _ | .found _ | .registeredOf .. => "contextgen_cli::commands"
  | .collected _ => "contextgen_cli::commands::context"

def line (e : LogEvent) : String := e.level.name ++ " " ++ e.message

def steersTerminal (c : Char) : Bool :=
  c ∈ ['\x07', '\x08', '\x0c', '\x1b', '\x7f'] || (0x80 ≤ c.toNat && c.toNat ≤ 0x9F)

/-- A character as it is shown on a terminal: one that would steer it is spelled by its number. -/
def shownChar (c : Char) : String :=
  if !steersTerminal c then c.toString
  else
    let number := Bytes.toHex [c.toNat.toUInt8]
    if c.toNat < 0x80 then "\\x" ++ number else "\\u\x7B" ++ number ++ "\x7D"

def terminalLine (e : LogEvent) : String :=
  e.level.name ++ " " ++ e.origin ++ ": " ++ String.join (e.message.toList.map shownChar)

def fromLevel (level : LogLevel) (events : List LogEvent) : List LogEvent :=
  events.filter fun e => decide (level.rank ≤ e.level.rank)

end LogEvent

end ProjectContext
