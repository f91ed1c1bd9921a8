import ProjectContext.Pattern.CharSet

/-!
# Patterns as they are written

The tree of a written pattern, before its flags are resolved and the properties that it names are
looked up.
-/

namespace ProjectContext.Pattern

/-- What a place at the edge of a word is like. -/
inductive WordEdge
  | boundary
  | notBoundary
  | start
  | stop
  | startHalf
  | stopHalf
deriving DecidableEq, Repr

def WordEdge.holds (before after : Bool) : WordEdge → Bool
  | .boundary => before != after
  | .notBoundary => before == after
  | .start => !before && after
  | .stop => before && !after
  | .startHalf => !before
  | .stopHalf => !after

inductive Flag
  | caseless
  | multiLine
  | dotAll
  | swapGreed
  | unicode
  | crlf
  | verbose
deriving DecidableEq, Repr

structure Flags where
  caseless : Bool := false
  multiLine : Bool := false
  dotAll : Bool := false
  swapGreed : Bool := false
  unicode : Bool := true
  crlf : Bool := false
  verbose : Bool := false
deriving DecidableEq, Repr

def Flags.set (flags : Flags) : Flag × Bool → Flags
  | (.caseless, on) => { flags with caseless := on }
  | (.multiLine, on) => { flags with multiLine := on }
  | (.dotAll, on) => { flags with dotAll := on }
  | (.swapGreed, on) => { flags with swapGreed := on }
  | (.unicode, on) => { flags with unicode := on }
  | (.crlf, on) => { flags with crlf := on }
  | (.verbose, on) => { flags with verbose := on }

def Flags.setAll (flags : Flags) (changes : List (Flag × Bool)) : Flags :=
  changes.foldl Flags.set flags

/-- A set of characters as it is written. Properties stand there by their names. -/
inductive WrittenSet
  | nothing
  | range (low high : Char)
  | word
  | digit
  | space
  | property (name : List Char)
  | compl (a : WrittenSet)
  | union (a b : WrittenSet)
  | inter (a b : WrittenSet)
  | diff (a b : WrittenSet)
  | symmDiff (a b : WrittenSet)
deriving DecidableEq, Repr

namespace WrittenSet

def single (c : Char) : WrittenSet := .range c c

def unionAll (sets : List WrittenSet) : WrittenSet := sets.foldl .union .nothing

def ofRanges (ranges : List (Char × Char)) : WrittenSet :=
  unionAll (ranges.map fun (low, high) => .range low high)

def negatedIf (negated : Bool) (set : WrittenSet) : WrittenSet :=
  if negated then .compl set else set

def ascii? : String → Option WrittenSet
  | "alnum" => some (ofRanges [('0', '9'), ('A', 'Z'), ('a', 'z')])
  | "alpha" => some (ofRanges [('A', 'Z'), ('a', 'z')])
  | "ascii" => some (ofRanges [('\x00', '\x7F')])
  | "blank" => some (ofRanges [('\t', '\t'), (' ', ' ')])
  | "cntrl" => some (ofRanges [('\x00', '\x1F'), ('\x7F', '\x7F')])
  | "digit" => some (ofRanges [('0', '9')])
  | "graph" => some (ofRanges [('!', '~')])
  | "lower" => some (ofRanges [('a', 'z')])
  | "print" => some (ofRanges [(' ', '~')])
  | "punct" => some (ofRanges [('!', '/'), (':', '@'), ('[', '\x60'), ('\x7B', '~')])
  | "space" => some (ofRanges [('\t', '\r'), (' ', ' ')])
  | "upper" => some (ofRanges [('A', 'Z')])
  | "word" => some (ofRanges [('0', '9'), ('A', 'Z'), ('_', '_'), ('a', 'z')])
  | "xdigit" => some (ofRanges [('0', '9'), ('A', 'F'), ('a', 'f')])
  | _ => none

end WrittenSet

/-- A written pattern. What the dot, line anchors, words and sets mean is up to the flags at their
place. -/
inductive Tree
  | empty
  | setFlags (changes : List (Flag × Bool))
  /-- A character; `byte` says that it is written as the number of one byte. -/
  | literal (c : Char) (byte : Bool)
  | dot
  | textStart
  | textEnd
  | lineStart
  | lineEnd
  | word (edge : WordEdge)
  | chars (set : WrittenSet) (depth : Nat)
  | repetition (min : Nat) (max : Option Nat) (greedy : Bool) (x : Tree)
  | capture (index : Nat) (x : Tree)
  | scope (changes : List (Flag × Bool)) (x : Tree)
  | concat (xs : List Tree)
  | alternation (xs : List Tree)

namespace Tree

def ofItems : List Tree → Tree
  | [] => .empty
  | [x] => x
  | xs => .concat xs

def ofBranches : List Tree → Tree
  | [] => .empty
  | [x] => x
  | xs => .alternation xs

mutual

def depth : Tree → Nat
  | .empty | .setFlags _ | .literal _ _ | .dot | .textStart | .textEnd | .lineStart | .lineEnd
  | .word _ => 0
  | .chars _ depth => depth
  | .repetition _ _ _ x | .capture _ x | .scope _ x => x.depth + 1
  | .concat xs | .alternation xs => depthAll xs + 1

def depthAll : List Tree → Nat
  | [] => 0
  | x :: xs => max x.depth (depthAll xs)

end

end Tree

end ProjectContext.Pattern
