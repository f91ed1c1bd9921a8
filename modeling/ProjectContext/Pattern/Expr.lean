import ProjectContext.Pattern.Reader

/-!
# Simplified patterns

A pattern with its flags resolved and its properties looked up, in the simplified form that fixes
which of several matches is preferred: runs of items are flat, neighbouring characters are joined, a
pattern of no width is repeated at most once, and what all alternatives begin with stands in front of
them.
-/

namespace ProjectContext.Pattern

/-- A place in a text. Lines end before a carriage return as well where `crlf` says so, but not
between the two characters of one line break; words are ASCII words unless `unicode` is set. -/
inductive Anchor
  | textStart
  | textEnd
  | lineStart (crlf : Bool)
  | lineEnd (crlf : Bool)
  | word (edge : WordEdge) (unicode : Bool)
deriving DecidableEq, Repr

def isWordAt (unicode : Bool) (c? : Option Char) : Bool :=
  c?.any fun c => Unicode.isWord c && (unicode || c.toNat < 0x80)

def Anchor.holds (before after : Option Char) : Anchor → Bool
  | .textStart => before.isNone
  | .textEnd => after.isNone
  | .lineStart false => before.isNone || before == some '\n'
  | .lineStart true =>
    before.isNone || before == some '\n' || (before == some '\r' && after != some '\n')
  | .lineEnd false => after.isNone || after == some '\n'
  | .lineEnd true =>
    after.isNone || after == some '\r' || (after == some '\n' && before != some '\r')
  | .word edge unicode => edge.holds (isWordAt unicode before) (isWordAt unicode after)

inductive Expr
  | empty
  | literal (cs : List Char)
  | chars (set : CharSet)
  | anchor (a : Anchor)
  | repetition (min : Nat) (max : Option Nat) (greedy : Bool) (x : Expr)
  | capture (index : Nat) (x : Expr)
  | concat (xs : List Expr)
  | alternation (xs : List Expr)
deriving BEq

namespace Expr

mutual

def minLength : Expr → Nat
  | .empty | .anchor _ => 0
  | .literal cs => cs.length
  | .chars _ => 1
  | .repetition min _ _ x => min * x.minLength
  | .capture _ x => x.minLength
  | .concat xs => minLengthSum xs
  | .alternation xs => minLengthLeast xs

def minLengthSum : List Expr → Nat
  | [] => 0
  | x :: xs => x.minLength + minLengthSum xs

def minLengthLeast : List Expr → Nat
  | [] => 0
  | [x] => x.minLength
  | x :: xs => min x.minLength (minLengthLeast xs)

end

mutual

def hasNoWidth : Expr → Bool
  | .empty | .anchor _ => true
  | .literal cs => cs.isEmpty
  | .chars _ => false
  | .repetition _ max _ x => max == some 0 || x.hasNoWidth
  | .capture _ x => x.hasNoWidth
  | .concat xs | .alternation xs => allHaveNoWidth xs

def allHaveNoWidth : List Expr → Bool
  | [] => true
  | x :: xs => x.hasNoWidth && allHaveNoWidth xs

end

def items : Expr → List Expr
  | .empty => []
  | .concat xs => xs
  | x => [x]

/-- Puts an item in front of a run, joined with it where both are literal. -/
def consItem : Expr → List Expr → List Expr
  | .literal cs, .literal ds :: xs => .literal (cs ++ ds) :: xs
  | x, xs => x :: xs

def ofItems (xs : List Expr) : Expr :=
  match (xs.flatMap items).foldr consItem [] with
  | [] => .empty
  | [x] => x
  | xs => .concat xs

def branches : Expr → List Expr
  | .alternation xs => xs
  | x => [x]

def choice : List Expr → Expr
  | [] => .chars .nothing
  | [x] => x
  | xs => .alternation xs

def commonLength : List Expr → List Expr → Nat
  | x :: xs, y :: ys => if x == y then commonLength xs ys + 1 else 0
  | _, _ => 0

def sharedLength : List (List Expr) → Nat
  | [] => 0
  | run :: runs => runs.foldl (fun n other => min n (commonLength run other)) run.length

def runs? (xs : List Expr) : Option (List (List Expr)) :=
  xs.mapM fun
    | .concat ys => some ys
    | _ => none

/-- The choice between some patterns, with what all of them begin with in front. The rests are again
a choice, in at most `fuel` turns. -/
def ofBranches : Nat → List Expr → Expr
  | 0, xs => choice (xs.flatMap branches)
  | fuel + 1, xs =>
    let xs := xs.flatMap branches
    match xs, runs? xs with
    | _ :: _ :: _, some (run :: runs) =>
      match sharedLength (run :: runs) with
      | 0 => choice xs
      | n => ofItems (run.take n ++
          [ofBranches fuel ((run :: runs).map fun other => ofItems (other.drop n))])
    | xs, _ => choice xs

def repeated (min : Nat) (max : Option Nat) (greedy : Bool) (x : Expr) : Expr :=
  let (min, max) := if x.hasNoWidth then (Nat.min min 1, some ((max.getD 1).min 1)) else (min, max)
  if max = some 0 then .empty
  else if min = 1 ∧ max = some 1 then x
  else .repetition min max greedy x

end Expr

/-- What is known beside a pattern when it is read: the code points that have a property, which is
given by what stands in its braces, and which patterns are small enough. -/
structure Support where
  property? : List Char → Option (List (Nat × Nat))
  fits : Expr → Bool

/-! ## Flags -/

/-- The characters of a range, and with them those that differ in case only where case does not
count. Without Unicode that goes for ASCII letters among themselves. -/
def CharSet.ofRange (flags : Flags) (low high : Char) : CharSet :=
  if flags.caseless && !flags.unicode then .inter (.range low high true) .ascii
  else .range low high flags.caseless

/-- What the dot stands for. -/
def CharSet.ofDot (flags : Flags) : CharSet :=
  if flags.dotAll then .compl .nothing
  else if flags.crlf then .compl (.union (.single '\r') (.single '\n'))
  else .compl (.single '\n')

def CharSet.asciiWord : CharSet := .ofRanges [('0', '9'), ('A', 'Z'), ('_', '_'), ('a', 'z')]

def CharSet.asciiDigit : CharSet := .range '0' '9' false

def CharSet.asciiSpace : CharSet := .ofRanges [('\t', '\r'), (' ', ' ')]

/-- The set that a written one stands for. Without Unicode it must be a set of ASCII characters, which
a complement never is. -/
def WrittenSet.resolve (support : Support) (flags : Flags) : WrittenSet → Except ReadError CharSet
  | .nothing => .ok .nothing
  | .range low high =>
    if flags.unicode || high.toNat < 0x80 then .ok (.ofRange flags low high)
    else .error .unicodeOff
  | .word => .ok (if flags.unicode then .word else .asciiWord)
  | .digit => .ok (if flags.unicode then .digit else .asciiDigit)
  | .space => .ok (if flags.unicode then .space else .asciiSpace)
  | .property name =>
    if !flags.unicode then .error .unicodeOff
    else match support.property? name with
      | some ranges => .ok (.table ranges flags.caseless)
      | none => .error .propertyUnknown
  | .compl a => if flags.unicode then do return .compl (← a.resolve support flags)
    else .error .unicodeOff
  | .union a b => do return .union (← a.resolve support flags) (← b.resolve support flags)
  | .inter a b => do return .inter (← a.resolve support flags) (← b.resolve support flags)
  | .diff a b => do return .diff (← a.resolve support flags) (← b.resolve support flags)
  | .symmDiff a b => do return .symmDiff (← a.resolve support flags) (← b.resolve support flags)

/-- The pattern of one character, which stands for its whole class where case does not count. -/
def Expr.ofChar (flags : Flags) (c : Char) : Expr :=
  let folds := (flags.unicode || c.toNat < 0x80) && (Unicode.caseVariants c.toNat).length > 1
  if flags.caseless && folds then .chars (.ofRange flags c c) else .literal [c]

/-- The pattern of a set of characters; a set written with one member is that character. -/
def Expr.ofSet (support : Support) (flags : Flags) (set : WrittenSet) : Except ReadError Expr := do
  let chars ← set.resolve support flags
  match set with
  | .range low high => return if low = high then .ofChar flags low else .chars chars
  | _ => return .chars chars

mutual

/-- The simplified form of a tree under the given switches, and the switches behind it. -/
def Tree.resolve (support : Support) (flags : Flags) : Tree → Except ReadError (Expr × Flags)
  | .empty => .ok (.empty, flags)
  | .setFlags changes => .ok (.empty, flags.setAll changes)
  | .literal c byte =>
    if byte && !flags.unicode && 0x80 ≤ c.toNat then .error .unicodeOff
    else .ok (.ofChar flags c, flags)
  | .dot => if flags.unicode then .ok (.chars (.ofDot flags), flags) else .error .unicodeOff
  | .textStart => .ok (.anchor .textStart, flags)
  | .textEnd => .ok (.anchor .textEnd, flags)
  | .lineStart =>
    .ok (.anchor (if flags.multiLine then .lineStart flags.crlf else .textStart), flags)
  | .lineEnd => .ok (.anchor (if flags.multiLine then .lineEnd flags.crlf else .textEnd), flags)
  | .word edge => .ok (.anchor (.word edge flags.unicode), flags)
  | .chars set _ => do return (← Expr.ofSet support flags set, flags)
  | .repetition min max greedy x => do
    let (x, _) ← x.resolve support flags
    return (.repeated min max (greedy != flags.swapGreed) x, flags)
  | .capture index x => do
    let (x, _) ← x.resolve support flags
    return (.capture index x, flags)
  | .scope changes x => do
    let (x, _) ← x.resolve support (flags.setAll changes)
    return (x, flags)
  | .concat xs => do
    let (xs, after) ← Tree.resolveAll support flags xs
    return (.ofItems xs, after)
  | .alternation xs => do
    let (xs, after) ← Tree.resolveAll support flags xs
    return (.ofBranches xs.length xs, after)

/-- The simplified forms of a list of trees; a switch lasts to the end of the list. -/
def Tree.resolveAll (support : Support) (flags : Flags) :
    List Tree → Except ReadError (List Expr × Flags)
  | [] => .ok ([], flags)
  | x :: xs => do
    let (y, flags) ← x.resolve support flags
    let (ys, flags) ← Tree.resolveAll support flags xs
    return (y :: ys, flags)

end

end ProjectContext.Pattern
