import ProjectContext.Text.Unicode.CaseFolding
import ProjectContext.Text.Unicode.Classes

/-!
# Sets of characters

The sets that a pattern can name, kept as they are built up, and membership in them.
-/

namespace ProjectContext.Pattern

/-- A set of characters. A caseless range or table also holds the characters that differ from a
member in case only. -/
inductive CharSet
  | nothing
  | range (low high : Char) (caseless : Bool)
  /-- The characters whose code points are in one of some closed ranges. -/
  | table (ranges : List (Nat × Nat)) (caseless : Bool)
  | word
  | digit
  | space
  | compl (a : CharSet)
  | union (a b : CharSet)
  | inter (a b : CharSet)
  | diff (a b : CharSet)
  | symmDiff (a b : CharSet)
deriving DecidableEq, Repr

namespace CharSet

def single (c : Char) : CharSet := .range c c false

def mem : CharSet → Char → Bool
  | .nothing, _ => false
  | .range low high false, c => low ≤ c && c ≤ high
  | .range low high true, c =>
    (Unicode.caseVariants c.toNat).any fun n => low.toNat ≤ n && n ≤ high.toNat
  | .table ranges false, c => ranges.any fun (low, high) => low ≤ c.toNat && c.toNat ≤ high
  | .table ranges true, c =>
    (Unicode.caseVariants c.toNat).any fun n => ranges.any fun (low, high) => low ≤ n && n ≤ high
  | .word, c => Unicode.isWord c
  | .digit, c => Unicode.isDigit c
  | .space, c => Unicode.isSpace c
  | .compl a, c => !a.mem c
  | .union a b, c => a.mem c || b.mem c
  | .inter a b, c => a.mem c && b.mem c
  | .diff a b, c => a.mem c && !b.mem c
  | .symmDiff a b, c => a.mem c != b.mem c

def unionAll (sets : List CharSet) : CharSet := sets.foldl .union .nothing

def ofRanges (ranges : List (Char × Char)) : CharSet :=
  unionAll (ranges.map fun (low, high) => .range low high false)

def ascii : CharSet := .range '\x00' '\x7F' false

/-- A bound on the bytes that the tables of an automaton for the set take. -/
def weight : CharSet → Nat
  | .nothing => 32
  | .range low high caseless =>
    if high.toNat < 0x80 && !caseless then 40 else if low = high then 160 else 400
  | .table ranges _ => 80 * ranges.length
  | .word => 56000
  | .digit => 5000
  | .space => 700
  | .compl a => a.weight + 200
  | .union a b | .inter a b | .diff a b | .symmDiff a b => a.weight + b.weight

end CharSet

end ProjectContext.Pattern
