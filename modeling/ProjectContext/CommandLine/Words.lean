import ProjectContext.CommandLine.Invocation

/-!
# Reading command lines

The words are read from left to right. A value that stands in a word of its own waits until the next
option, the next positional word or the end before it is checked; an attached one is checked at
once.
-/

namespace ProjectContext.CommandLine

inductive Word
  /-- Two hyphens, behind which every word is positional. -/
  | escape
  /-- Two hyphens and a name, it may be with a value behind an equals sign. -/
  | long (name : Bytes) (value : Option Bytes)
  /-- One hyphen and letters. -/
  | short (letters : Bytes)
  | plain (bytes : Bytes)
deriving DecidableEq, Repr

def hyphen : UInt8 := 0x2D

def equalsSign : UInt8 := 0x3D

def splitValue (bytes : Bytes) : Bytes × Option Bytes :=
  match bytes.span (· != equalsSign) with
  | (name, []) => (name, none)
  | (name, _ :: value) => (name, some value)

def Word.ofBytes (bytes : Bytes) : Word :=
  match bytes with
  | a :: b :: rest =>
    if a = hyphen ∧ b = hyphen then
      if rest.isEmpty then .escape
      else
        let (name, value) := splitValue rest
        .long name value
    else if a = hyphen then .short (b :: rest)
    else .plain bytes
  | _ => .plain bytes

/-- The options with a value, and the positional argument. -/
inductive Slot
  | path
  | conversationFile
  | convention
  | format
deriving DecidableEq, Repr

/-- The options of a subcommand that opens a session. -/
inductive OptionName
  | verbose
  | strict
  | gitignore
  | help
  | slot (slot : Slot)
deriving DecidableEq, Repr

/-- What has been read of a session's arguments. -/
structure Reading where
  withFormat : Bool
  verbose : Bool := false
  strict : Bool := false
  gitignore : Bool := false
  path : Option Path := none
  conversationFiles : List Path := []
  convention : Option ConventionChoice := none
  format : Option OutputFormat := none
  /-- The argument whose value is not checked yet, or has not come yet. -/
  pending : Option (Slot × Option Bytes) := none
  /-- A positional word has come. -/
  positional : Bool := false
deriving DecidableEq, Repr

namespace Reading

def topic (a : Reading) : HelpTopic := if a.withFormat then .report else .context

def longOption? (a : Reading) (name : Bytes) : Option OptionName :=
  let table : List (String × OptionName) :=
    [("verbose", .verbose), ("strict", .strict), ("gitignore", .gitignore), ("help", .help),
      ("conversation-file", .slot .conversationFile), ("convention", .slot .convention)] ++
    if a.withFormat then [("format", .slot .format)] else []
  (table.find? fun entry => Bytes.ofString entry.1 == name).map (·.2)

def shortOption? (letter : UInt8) : Option OptionName :=
  if letter = 0x76 then some .verbose
  else if letter = 0x68 then some .help
  else if letter = 0x63 then some (.slot .conversationFile)
  else none

def checkPath (value : Bytes) : Except UsageError Path :=
  if value.isEmpty then .error .invalidValue else .ok ⟨value⟩

def checkChoice (choices : List α) (name : α → String) (value : Bytes) : Except UsageError α :=
  match choices.find? fun choice => Bytes.ofString (name choice) == value with
  | some choice => .ok choice
  | none => .error .invalidValue

/-- Sets an argument to a value. All but the conversation files can be set once. -/
def store (a : Reading) (slot : Slot) (value : Bytes) : Except UsageError Reading :=
  match slot with
  | .path => do return { a with path := some (← checkPath value) }
  | .conversationFile => do
    return { a with conversationFiles := a.conversationFiles ++ [← checkPath value] }
  | .convention => do
    if a.convention.isSome then throw .argumentConflict
    return { a with convention := some (← checkChoice ConventionChoice.all (·.name) value) }
  | .format => do
    if a.format.isSome then throw .argumentConflict
    return { a with format := some (← checkChoice OutputFormat.all (·.name) value) }

def settle (a : Reading) : Except UsageError Reading :=
  match a.pending with
  | none => .ok a
  | some (_, none) => .error .invalidValue
  | some (slot, some value) => { a with pending := none }.store slot value

def switchOn (a : Reading) : OptionName → Except UsageError Reading
  | .verbose => if a.verbose then .error .argumentConflict else .ok { a with verbose := true }
  | .strict => if a.strict then .error .argumentConflict else .ok { a with strict := true }
  | .gitignore =>
    if a.gitignore then .error .argumentConflict else .ok { a with gitignore := true }
  | .help | .slot _ => .ok a

def readLong (a : Reading) (name : Bytes) (value : Option Bytes) : Except UsageError Reading :=
  match a.longOption? name, value with
  | none, _ => .error .unknownArgument
  | some (.slot slot), some value => do (← a.settle).store slot value
  | some (.slot slot), none => do return { ← a.settle with pending := some (slot, none) }
  | some _, some _ => .error .tooManyValues
  | some .help, none => do
    let _ ← a.settle
    throw (.help a.topic true)
  | some switch, none => do (← a.settle).switchOn switch

/-- Letters behind one hyphen. What follows the letter of an option with a value is the value. -/
def readShort (a : Reading) : Bytes → Except UsageError Reading
  | [] => .ok a
  | letter :: rest =>
    match shortOption? letter with
    | none => .error .unknownArgument
    | some (.slot slot) =>
      match rest with
      | [] => do return { ← a.settle with pending := some (slot, none) }
      | b :: value => do (← a.settle).store slot (if b = equalsSign then value else b :: value)
    | some .help => do
      let _ ← a.settle
      throw (.help a.topic false)
    | some switch => do ((← (← a.settle).switchOn switch).readShort rest)

def readPositional (a : Reading) (value : Bytes) : Except UsageError Reading := do
  if a.positional then throw .unknownArgument
  return { ← a.settle with pending := some (.path, some value), positional := true }

def readWord (a : Reading) : Word → Except UsageError Reading
  | .escape => .ok a
  | .long name value => a.readLong name value
  | .short letters => a.readShort letters
  | .plain bytes =>
    match a.pending with
    | some (slot, none) => .ok { a with pending := some (slot, some bytes) }
    | _ => a.readPositional bytes

def readWords (a : Reading) : List Bytes → Except UsageError Reading
  | [] => .ok a
  | word :: words =>
    match Word.ofBytes word with
    | .escape => words.foldlM readPositional a
    | shape => do (← a.readWord shape).readWords words

def finish (a : Reading) : Except UsageError (SessionArgs × Reading) := do
  let a ← a.settle
  match a.path with
  | none => throw .missingRequiredArgument
  | some path =>
    return ({ path
              conversationFiles := a.conversationFiles
              strict := a.strict
              gitignore := a.gitignore
              convention := a.convention.getD .python }, a)

end Reading

/-! ## The words in front of a subcommand -/

inductive Subcommand
  | report
  | context
  | help
deriving DecidableEq, Repr

def Subcommand.ofBytes? (word : Bytes) : Option Subcommand :=
  let table : List (String × Subcommand) :=
    [("report", .report), ("context", .context), ("help", .help)]
  (table.find? fun entry => Bytes.ofString entry.1 == word).map (·.2)

def readHelp : List Bytes → UsageError
  | [] => .help .program true
  | [word] =>
    match Subcommand.ofBytes? word with
    | some .report => .help .report true
    | some .context => .help .context true
    | some .help => .help .help true
    | none => .invalidSubcommand
  | _ => .invalidSubcommand

def readSubcommand (verbose : Bool) : Subcommand → List Bytes → Except UsageError Invocation
  | .help, words => .error (readHelp words)
  | .report, words => do
    let a ← Reading.readWords { withFormat := true } words
    let (session, a) ← a.finish
    return ⟨verbose || a.verbose, .report session (a.format.getD .text)⟩
  | .context, words => do
    let a ← Reading.readWords { withFormat := false } words
    let (session, a) ← a.finish
    return ⟨verbose || a.verbose, .context session⟩

def readProgramLetters (verbose : Bool) : Bytes → Except UsageError Bool
  | [] => .ok verbose
  | letter :: rest =>
    if letter = 0x76 then
      if verbose then .error .argumentConflict else readProgramLetters true rest
    else if letter = 0x68 then .error (.help .program false)
    else if letter = 0x56 then .error .version
    else .error .unknownArgument

def readProgramOption (verbose : Bool) (name : Bytes) (value : Option Bytes) :
    Except UsageError Bool :=
  if name = Bytes.ofString "verbose" then
    if value.isSome then .error .tooManyValues
    else if verbose then .error .argumentConflict
    else .ok true
  else if name = Bytes.ofString "help" then
    if value.isSome then .error .tooManyValues else .error (.help .program true)
  else if name = Bytes.ofString "version" then
    if value.isSome then .error .tooManyValues else .error .version
  else .error .unknownArgument

def readNothing (verbose : Bool) : UsageError :=
  if verbose then .missingSubcommand else .noArguments

/-- The words of the whole command line; `verbose` says whether the option has come. -/
def readFrom (verbose : Bool) : List Bytes → Except UsageError Invocation
  | [] => .error (readNothing verbose)
  | word :: words =>
    match Subcommand.ofBytes? word with
    | some subcommand => readSubcommand verbose subcommand words
    | none =>
      match Word.ofBytes word with
      | .escape =>
        if words.isEmpty then .error (readNothing verbose) else .error .unknownArgument
      | .long name value => do readFrom (← readProgramOption verbose name value) words
      | .short letters => do readFrom (← readProgramLetters verbose letters) words
      | .plain _ => .error .invalidSubcommand

def read (words : List Bytes) : Except UsageError Invocation := readFrom false words

end ProjectContext.CommandLine
