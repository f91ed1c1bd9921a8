import ProjectContext.Pattern.Tree

/-!
# Escapes in patterns

What follows a backslash: a character, a set of characters or a place in the text. A verbose pattern
may be spread out with white space and comments, inside many escapes as well.
-/

namespace ProjectContext.Pattern

inductive ReadError
  | groupUnclosed
  | groupUnopened
  | groupNameInvalid
  | groupNameRepeated
  | lookAround
  | flagUnknown
  | flagRepeated
  | flagDangling
  | nothingToRepeat
  | countInvalid
  | countUnclosed
  | classUnclosed
  | classRangeReversed
  | classRangeNotLiteral
  | classEscapeInvalid
  | escapeUnfinished
  | escapeUnknown
  | hexInvalid
  | boundaryUnknown
  | propertyUnknown
  | unicodeOff
  | nestedTooDeeply
  | tooLarge
deriving DecidableEq, Repr

/-! ## White space and comments -/

/-- The characters of a text that count, each with the text behind it. In a verbose pattern white
space does not count, nor does a comment, which goes from a number sign to the end of the line. -/
def countingFrom (verbose comment : Bool) : List Char → List (Char × List Char)
  | [] => []
  | c :: rest =>
    if comment then countingFrom verbose (c != '\n') rest
    else if verbose && c == '#' then countingFrom verbose true rest
    else if verbose && Unicode.isSpace c then countingFrom verbose false rest
    else (c, rest) :: countingFrom verbose false rest

def counting (verbose : Bool) (text : List Char) : List (Char × List Char) :=
  countingFrom verbose false text

/-- The text from the first of some characters on. -/
def textFrom : List (Char × List Char) → List Char
  | [] => []
  | (c, rest) :: _ => c :: rest

/-- The text from its first character on that counts. -/
def skip (verbose : Bool) (text : List Char) : List Char :=
  if verbose then textFrom (counting true text) else text

/-! ## Escapes -/

inductive Escape
  | literal (c : Char) (byte : Bool)
  | chars (set : WrittenSet)
  | place (x : Tree)

def hexValue? (c : Char) : Option Nat :=
  if '0' ≤ c && c ≤ '9' then some (c.toNat - 48)
  else if 'a' ≤ c && c ≤ 'f' then some (c.toNat - 87)
  else if 'A' ≤ c && c ≤ 'F' then some (c.toNat - 55)
  else none

def hexNumber? (digits : List Char) : Option Nat :=
  digits.foldlM (fun n c => (hexValue? c).map (n * 16 + ·)) 0

def scalar? (n : Nat) : Option Char :=
  if h : n.isValidChar then some (Char.ofNatAux n h) else none

def hexChar (digits : List Char) : Except ReadError Char :=
  match (hexNumber? digits).bind scalar? with
  | some c => .ok c
  | none => .error .hexInvalid

/-- What stands in braces, where the opening one has been read, and the text behind them. -/
def readBraced (verbose : Bool) (text : List Char) : Except ReadError (List Char × List Char) :=
  match (counting verbose text).span (·.1 != '\x7D') with
  | (inside, (_, rest) :: _) => .ok (inside.map (·.1), rest)
  | (_, []) => .error .escapeUnfinished

/-- The character behind an escape letter that announces `count` digits or digits in braces, and
whether the digits are bare. -/
def readHex (verbose : Bool) (count : Nat) (text : List Char) :
    Except ReadError (Char × Bool × List Char) :=
  match counting verbose text with
  | ('\x7B', inside) :: _ => do
    let (digits, rest) ← readBraced verbose inside
    if digits.isEmpty then .error .hexInvalid else return (← hexChar digits, false, rest)
  | digits =>
    match digits.drop (count - 1) with
    | [] => .error .escapeUnfinished
    | (_, rest) :: _ => do return (← hexChar ((digits.take count).map (·.1)), true, rest)

/-- The name of a property: one letter or what stands in braces. -/
def readProperty (verbose : Bool) (text : List Char) : Except ReadError (List Char × List Char) :=
  match counting verbose text with
  | [] => .error .escapeUnfinished
  | ('\x7B', inside) :: _ => readBraced verbose inside
  | ('\\', _) :: _ => .error .propertyUnknown
  | (c, rest) :: _ => .ok ([c], rest)

def isBoundaryNameChar (c : Char) : Bool :=
  ('a' ≤ c && c ≤ 'z') || ('A' ≤ c && c ≤ 'Z') || c == '-'

/-- The kind of word boundary that a name in braces selects; braces that hold no name are left for
the reader of repetitions. -/
def readBoundary (verbose : Bool) : List Char → Except ReadError (WordEdge × List Char)
  | '\x7B' :: text =>
    match counting verbose text with
    | [] => .error .boundaryUnknown
    | (c, rest) :: more =>
      if isBoundaryNameChar c then
        match ((c, rest) :: more).span (isBoundaryNameChar ·.1) with
        | (name, ('\x7D', rest) :: _) =>
          match String.ofList (name.map (·.1)) with
          | "start" => .ok (.start, rest)
          | "end" => .ok (.stop, rest)
          | "start-half" => .ok (.startHalf, rest)
          | "end-half" => .ok (.stopHalf, rest)
          | _ => .error .boundaryUnknown
        | _ => .error .boundaryUnknown
      else .ok (.boundary, '\x7B' :: text)
  | text => .ok (.boundary, text)

def isAsciiAlphanumeric (c : Char) : Bool :=
  ('0' ≤ c && c ≤ '9') || ('a' ≤ c && c ≤ 'z') || ('A' ≤ c && c ≤ 'Z')

/-- The escape at the start of a text that stood behind a backslash. Every ASCII character but the
letters and digits stands for itself. -/
def readEscape (verbose : Bool) : List Char → Except ReadError (Escape × List Char)
  | [] => .error .escapeUnfinished
  | c :: rest =>
    match c with
    | 'x' => do let (d, bare, rest) ← readHex verbose 2 rest; return (.literal d bare, rest)
    | 'u' => do let (d, _, rest) ← readHex verbose 4 rest; return (.literal d false, rest)
    | 'U' => do let (d, _, rest) ← readHex verbose 8 rest; return (.literal d false, rest)
    | 'p' => do let (name, rest) ← readProperty verbose rest; return (.chars (.property name), rest)
    | 'P' => do
      let (name, rest) ← readProperty verbose rest
      return (.chars (.compl (.property name)), rest)
    | 'w' => .ok (.chars .word, rest)
    | 'd' => .ok (.chars .digit, rest)
    | 's' => .ok (.chars .space, rest)
    | 'W' => .ok (.chars (.compl .word), rest)
    | 'D' => .ok (.chars (.compl .digit), rest)
    | 'S' => .ok (.chars (.compl .space), rest)
    | 'a' => .ok (.literal '\x07' false, rest)
    | 'f' => .ok (.literal '\x0C' false, rest)
    | 't' => .ok (.literal '\t' false, rest)
    | 'n' => .ok (.literal '\n' false, rest)
    | 'r' => .ok (.literal '\r' false, rest)
    | 'v' => .ok (.literal '\x0B' false, rest)
    | 'A' => .ok (.place .textStart, rest)
    | 'z' => .ok (.place .textEnd, rest)
    | 'b' => do let (edge, rest) ← readBoundary verbose rest; return (.place (.word edge), rest)
    | 'B' => .ok (.place (.word .notBoundary), rest)
    | '<' => .ok (.place (.word .start), rest)
    | '>' => .ok (.place (.word .stop), rest)
    | c =>
      if c.toNat < 0x80 && !isAsciiAlphanumeric c then .ok (.literal c false, rest)
      else .error .escapeUnknown

end ProjectContext.Pattern
