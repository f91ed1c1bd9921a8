import ProjectContext.Text.Unicode.Alphabetic
import ProjectContext.Text.Unicode.Mark
import ProjectContext.Text.Unicode.Number
import ProjectContext.Text.Unicode.Unshown

/-!
# Classes of characters

The classes that patterns, names, ignore rules and listings speak of, each a union of properties of
Unicode.
-/

namespace ProjectContext.Unicode

def inRanges : List (Nat × Nat) → Nat → Bool
  | [], _ => false
  | (low, high) :: rest, n => low ≤ n && (n ≤ high || inRanges rest n)

def isAlphabetic (c : Char) : Bool := inRanges alphabeticRanges c.toNat

def isMark (c : Char) : Bool := inRanges markRanges c.toNat

def isDigit (c : Char) : Bool := inRanges digitRanges c.toNat

/-- The general category `N`: decimal digits, letter-like numbers and other numbers. -/
def isNumeric (c : Char) : Bool := isDigit c || inRanges otherNumberRanges c.toNat

def isConnector (c : Char) : Bool :=
  inRanges [(0x5F, 0x5F), (0x203F, 0x2040), (0x2054, 0x2054), (0xFE33, 0xFE34), (0xFE4D, 0xFE4F),
    (0xFF3F, 0xFF3F)] c.toNat

def isJoinControl (c : Char) : Bool := c.toNat == 0x200C || c.toNat == 0x200D

def isWord (c : Char) : Bool :=
  isAlphabetic c || isMark c || isDigit c || isConnector c || isJoinControl c

def spaceRanges : List (Nat × Nat) := [
    (0x9, 0xD), (0x20, 0x20), (0x85, 0x85), (0xA0, 0xA0), (0x1680, 0x1680), (0x2000, 0x200A),
    (0x2028, 0x2029), (0x202F, 0x202F), (0x205F, 0x205F), (0x3000, 0x3000)]

def isSpace (c : Char) : Bool := inRanges spaceRanges c.toNat

def isShown (c : Char) : Bool := !inRanges unshownRanges c.toNat

end ProjectContext.Unicode
