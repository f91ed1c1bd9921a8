import ProjectContext.Pattern.CharClass

/-!
# Reading patterns

A pattern is read from left to right with the groups that are still open on a stack. Of the flags only
the one for verbose patterns matters here; it lasts to the end of the group that it is set in.
-/

namespace ProjectContext.Pattern

inductive GroupKind
  | capture (index : Nat)
  | scope (changes : List (Flag × Bool))

def GroupKind.close : GroupKind → Tree → Tree
  | .capture index, x => .capture index x
  | .scope changes, x => .scope changes x

/-- An open group, with the alternatives and the items in front of it, the last ones first, and
whether the pattern is verbose there. -/
structure GroupFrame where
  kind : GroupKind
  branches : List Tree
  items : List Tree
  verbose : Bool

structure Reader where
  rest : List Char
  frames : List GroupFrame := []
  branches : List Tree := []
  items : List Tree := []
  groups : Nat := 0
  verbose : Bool := false
  names : List (List Char) := []

namespace Reader

def current (r : Reader) : Tree :=
  .ofBranches ((.ofItems r.items.reverse :: r.branches).reverse)

def push (r : Reader) (item : Tree) (rest : List Char) : Reader :=
  { r with items := item :: r.items, rest }

def openGroup (r : Reader) (kind : GroupKind) (rest : List Char) : Reader :=
  { r with
    frames := ⟨kind, r.branches, r.items, r.verbose⟩ :: r.frames
    branches := []
    items := []
    rest }

def openCapture (r : Reader) (rest : List Char) : Reader :=
  { r.openGroup (.capture (r.groups + 1)) rest with groups := r.groups + 1 }

/-- The reader under some switches, of which there is one at most for each flag. -/
def switched (r : Reader) (changes : List (Flag × Bool)) : Reader :=
  { r with verbose := (changes.lookup .verbose).getD r.verbose }

def flag? : Char → Option Flag
  | 'i' => some .caseless
  | 'm' => some .multiLine
  | 's' => some .dotAll
  | 'U' => some .swapGreed
  | 'u' => some .unicode
  | 'R' => some .crlf
  | 'x' => some .verbose
  | _ => none

/-- The switches up to a colon or a closing parenthesis, which is left in front. No switch may be
repeated, and a minus sign, which turns off what follows it, needs something to follow. -/
def readFlags (negated : Bool) (changes : List (Flag × Bool)) :
    List Char → Except ReadError (List (Flag × Bool) × List Char)
  | [] => .error .groupUnclosed
  | c :: rest =>
    if c = ':' ∨ c = ')' then
      if negated && !changes.any (!·.2) then .error .flagDangling
      else .ok (changes.reverse, c :: rest)
    else if c = '-' then
      if negated then .error .flagRepeated else readFlags true changes rest
    else
      match flag? c with
      | none => .error .flagUnknown
      | some flag =>
        if changes.any (·.1 == flag) then .error .flagRepeated
        else readFlags negated ((flag, !negated) :: changes) rest

def isNameStart (c : Char) : Bool := c == '_' || Unicode.isAlphabetic c

def isNameChar (c : Char) : Bool :=
  isNameStart c || Unicode.isNumeric c || c == '.' || c == '[' || c == ']'

def readGroupName (text : List Char) : Except ReadError (List Char × List Char) :=
  match text.span (· != '>') with
  | (c :: name, _ :: rest) =>
    if isNameStart c && name.all isNameChar then .ok (c :: name, rest)
    else .error .groupNameInvalid
  | _ => .error .groupNameInvalid

def openNamed (r : Reader) (text : List Char) : Except ReadError Reader := do
  let (name, rest) ← readGroupName text
  if name ∈ r.names then .error .groupNameRepeated
  else return { r.openCapture rest with names := name :: r.names }

def readGroup (r : Reader) (text : List Char) : Except ReadError Reader :=
  match skip r.verbose text with
  | '?' :: '=' :: _ | '?' :: '!' :: _ | '?' :: '<' :: '=' :: _ | '?' :: '<' :: '!' :: _ =>
    .error .lookAround
  | '?' :: 'P' :: '<' :: rest | '?' :: '<' :: rest => r.openNamed rest
  | '?' :: rest => do
    match ← readFlags false [] rest with
    | (changes, ':' :: rest) => return (r.openGroup (.scope changes) rest).switched changes
    | ([], _) => .error .nothingToRepeat
    | (changes, rest) => return (r.push (.setFlags changes) (rest.drop 1)).switched changes
  | rest => .ok (r.openCapture rest)

def closeGroup (r : Reader) (rest : List Char) : Except ReadError Reader :=
  match r.frames with
  | [] => .error .groupUnopened
  | frame :: frames => .ok { r with
      frames
      branches := frame.branches
      items := frame.kind.close r.current :: frame.items
      verbose := frame.verbose
      rest }

def repeatable (r : Reader) : Except ReadError (Tree × List Tree) :=
  match r.items with
  | [] | .empty :: _ | .setFlags _ :: _ => .error .nothingToRepeat
  | x :: items => .ok (x, items)

/-- Puts a repetition in place of the last item; a question mark behind it makes it lazy. -/
def pushRepetition (r : Reader) (x : Tree) (items : List Tree) (min : Nat) (max : Option Nat)
    (rest : List Char) : Reader :=
  match rest with
  | '?' :: rest => { r with items := .repetition min max false x :: items, rest }
  | rest => { r with items := .repetition min max true x :: items, rest }

def isAsciiDigit (c : Char) : Bool := '0' ≤ c && c ≤ '9'

def readCount (verbose : Bool) (text : List Char) : Except ReadError (Nat × List Char) :=
  let (digits, rest) :=
    (counting verbose (text.dropWhile Unicode.isSpace)).span (isAsciiDigit ·.1)
  let value := digits.foldl (fun n c => n * 10 + (c.1.toNat - 48)) 0
  if digits.isEmpty || value ≥ UInt32.size then .error .countInvalid
  else .ok (value, (textFrom rest).dropWhile Unicode.isSpace)

def readBounds (verbose : Bool) (text : List Char) :
    Except ReadError (Nat × Option Nat × List Char) := do
  let (min, rest) ← readCount verbose (skip verbose text)
  match rest with
  | '\x7D' :: rest => return (min, some min, rest)
  | ',' :: rest =>
    match skip verbose rest with
    | '\x7D' :: rest => return (min, none, rest)
    | rest =>
      match ← readCount verbose rest with
      | (max, '\x7D' :: rest) =>
        if min ≤ max then return (min, some max, rest) else .error .countInvalid
      | _ => .error .countUnclosed
  | _ => .error .countUnclosed

def step (r : Reader) : Except ReadError Reader :=
  match skip r.verbose r.rest with
  | [] => .ok { r with rest := [] }
  | '(' :: rest => r.readGroup rest
  | ')' :: rest => r.closeGroup rest
  | '|' :: rest =>
    .ok { r with branches := .ofItems r.items.reverse :: r.branches, items := [], rest }
  | '[' :: rest => do
    let (item, rest) ← readClass r.verbose rest
    return r.push (.chars item.set item.depth) rest
  | '?' :: rest => do let (x, items) ← r.repeatable; return r.pushRepetition x items 0 (some 1) rest
  | '*' :: rest => do let (x, items) ← r.repeatable; return r.pushRepetition x items 0 none rest
  | '+' :: rest => do let (x, items) ← r.repeatable; return r.pushRepetition x items 1 none rest
  | '\x7B' :: rest => do
    let (x, items) ← r.repeatable
    let (min, max, rest) ← readBounds r.verbose rest
    return r.pushRepetition x items min max (skip r.verbose rest)
  | '.' :: rest => .ok (r.push .dot rest)
  | '^' :: rest => .ok (r.push .lineStart rest)
  | '$' :: rest => .ok (r.push .lineEnd rest)
  | '\\' :: rest => do
    match ← readEscape r.verbose rest with
    | (.literal c byte, rest) => return r.push (.literal c byte) rest
    | (.chars set, rest) => return r.push (.chars set 0) rest
    | (.place x, rest) => return r.push x rest
  | c :: rest => .ok (r.push (.literal c false) rest)

def finish : Nat → Reader → Except ReadError Reader
  | 0, r => .ok r
  | fuel + 1, r => if r.rest.isEmpty then .ok r else do finish fuel (← r.step)

end Reader

def maxDepth : Nat := 250

def Tree.read (pattern : List Char) : Except ReadError Tree := do
  let r ← Reader.finish pattern.length { rest := pattern }
  if !r.frames.isEmpty then .error .groupUnclosed
  else if r.current.depth > maxDepth then .error .nestedTooDeeply
  else return r.current

end ProjectContext.Pattern
