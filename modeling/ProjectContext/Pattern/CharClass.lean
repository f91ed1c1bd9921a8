import ProjectContext.Pattern.Escape

/-!
# Bracketed classes

A class is read from left to right with the brackets and the set operations that are still open on
a stack.
-/

namespace ProjectContext.Pattern

/-- A set that a class has read so far, and how deep its operations are nested. -/
structure ClassItem where
  set : WrittenSet
  depth : Nat

namespace ClassItem

def ofChar (c : Char) : ClassItem := ⟨.single c, 0⟩

def unionOf : List ClassItem → ClassItem
  | [] => ⟨.nothing, 0⟩
  | [item] => item
  | items =>
    ⟨WrittenSet.unionAll (items.reverse.map (·.set)), (items.map (·.depth)).foldl max 0 + 1⟩

end ClassItem

inductive SetOp
  | inter
  | diff
  | symmDiff

def SetOp.apply (op : SetOp) (a b : ClassItem) : ClassItem :=
  let set := match op with
    | .inter => .inter a.set b.set
    | .diff => .diff a.set b.set
    | .symmDiff => .symmDiff a.set b.set
  ⟨set, max a.depth b.depth + 1⟩

/-- What is still open inside a class: a bracket, with the items before it, or an operation, with
its left operand. -/
inductive ClassFrame
  | bracket (before : List ClassItem) (negated : Bool)
  | operation (op : SetOp) (left : ClassItem)

/-- Where the reading of a class stands: behind the last closing bracket, or inside one. -/
inductive ClassState
  | closed (item : ClassItem) (rest : List Char)
  | opened (frames : List ClassFrame) (items : List ClassItem) (rest : List Char)

namespace ClassState

/-- The operand complete, an operation that waits for it is carried out. -/
def reduce (item : ClassItem) : List ClassFrame → ClassItem × List ClassFrame
  | .operation op left :: frames => (op.apply left item, frames)
  | frames => (item, frames)

/-- The text behind an opening bracket. A closing bracket at the very start is a member, and so are
hyphens there. -/
def openBracket (verbose : Bool) (frames : List ClassFrame) (before : List ClassItem)
    (text : List Char) : ClassState :=
  let (negated, text) := match skip verbose text with
    | '^' :: rest => (true, rest)
    | rest => (false, rest)
  let (hyphens, rest) := (counting verbose text).span (·.1 == '-')
  let frames := .bracket before negated :: frames
  match hyphens, rest with
  | [], (']', rest) :: _ => .opened frames [.ofChar ']'] rest
  | hyphens, rest => .opened frames (hyphens.map fun _ => .ofChar '-') (textFrom rest)

def closeBracket (frames : List ClassFrame) (items : List ClassItem) (rest : List Char) :
    Except ReadError ClassState :=
  match reduce (.unionOf items) frames with
  | (item, .bracket before negated :: frames) =>
    let item : ClassItem := ⟨item.set.negatedIf negated, item.depth + 1⟩
    match frames with
    | [] => .ok (.closed item rest)
    | frames => .ok (.opened frames (item :: before) rest)
  | _ => .error .classUnclosed

def operate (op : SetOp) (frames : List ClassFrame) (items : List ClassItem) (rest : List Char) :
    ClassState :=
  let (left, frames) := reduce (.unionOf items) frames
  .opened (.operation op left :: frames) [] rest

/-- The named ASCII set at the start of a text that stood behind an opening bracket. -/
def asciiSet? (text : List Char) : Option (WrittenSet × List Char) :=
  match text with
  | ':' :: text =>
    let (negated, text) := match text with
      | '^' :: rest => (true, rest)
      | rest => (false, rest)
    match text.span (· != ':') with
    | (name, ':' :: ']' :: rest) =>
      (WrittenSet.ascii? (String.ofList name)).map fun set => (set.negatedIf negated, rest)
    | _ => none
  | _ => none

def readMember (verbose : Bool) : List Char → Except ReadError (Escape × List Char)
  | [] => .error .classUnclosed
  | '\\' :: rest => readEscape verbose rest
  | c :: rest => .ok (.literal c false, rest)

/-- The next character but for white space and one number sign, where a verbose pattern lets one
look ahead; the very next one if nothing else is left. -/
def lookAhead? (verbose : Bool) (rest : List Char) : Option Char :=
  if !verbose then rest.head?
  else match rest.dropWhile Unicode.isSpace with
    | '#' :: more => (more.dropWhile Unicode.isSpace).head?.or rest.head?
    | more => more.head?.or rest.head?

/-- A member, or a range between two characters. A hyphen before a closing bracket or before another
hyphen makes no range. -/
def readRange (verbose : Bool) (text : List Char) : Except ReadError (ClassItem × List Char) := do
  let (first, rest) ← readMember verbose text
  let rest := skip verbose rest
  let plain : Except ReadError (ClassItem × List Char) := match first with
    | .literal c _ => .ok (.ofChar c, rest)
    | .chars set => .ok (⟨set, 0⟩, rest)
    | .place _ => .error .classEscapeInvalid
  match rest with
  | [] => .error .classUnclosed
  | '-' :: rest =>
    match lookAhead? verbose rest with
    | some ']' | some '-' => plain
    | _ =>
      let (last, rest) ← readMember verbose (skip verbose rest)
      match first, last with
      | .literal low _, .literal high _ =>
        if low ≤ high then .ok (⟨.range low high, 0⟩, rest) else .error .classRangeReversed
      | _, _ => .error .classRangeNotLiteral
  | _ => plain

def step (verbose : Bool) (frames : List ClassFrame) (items : List ClassItem) (text : List Char) :
    Except ReadError ClassState :=
  match skip verbose text with
  | [] => .error .classUnclosed
  | '[' :: rest =>
    match asciiSet? rest with
    | some (set, rest) => .ok (.opened frames (⟨set, 0⟩ :: items) rest)
    | none => .ok (openBracket verbose frames items rest)
  | ']' :: rest => closeBracket frames items rest
  | '&' :: '&' :: rest => .ok (operate .inter frames items rest)
  | '-' :: '-' :: rest => .ok (operate .diff frames items rest)
  | '~' :: '~' :: rest => .ok (operate .symmDiff frames items rest)
  | text => do
    let (item, rest) ← readRange verbose text
    return .opened frames (item :: items) rest

def finish (verbose : Bool) : Nat → ClassState → Except ReadError (ClassItem × List Char)
  | _, .closed item rest => .ok (item, rest)
  | 0, .opened .. => .error .classUnclosed
  | fuel + 1, .opened frames items rest => do
    finish verbose fuel (← step verbose frames items rest)

end ClassState

def readClass (verbose : Bool) (text : List Char) : Except ReadError (ClassItem × List Char) :=
  ClassState.finish verbose (text.length + 1) (ClassState.openBracket verbose [] [] text)

end ProjectContext.Pattern
