import ProjectContext.Text.Unicode.Category
import ProjectContext.Text.Unicode.Classes

/-!
# Properties by their names

The properties that this library has tables for, under the names that patterns give them: the general
categories with their groups, and what is alphabetic or white space. White space, underscores,
hyphens, case and a leading `is` do not count in a name.
-/

namespace ProjectContext.Unicode

namespace Category

/-- Every other code point of some ranges, from their first ones on. -/
def everyOther (ranges : List (Nat × Nat)) : List (Nat × Nat) :=
  ranges.flatMap fun (first, last) =>
    (List.range ((last - first) / 2 + 1)).map fun i => (first + 2 * i, first + 2 * i)

/-- What some ranges in ascending order leave out of the code points from `least` on. -/
def gaps (least : Nat) : List (Nat × Nat) → List (Nat × Nat)
  | [] => [(least, 0x10FFFF)]
  | (low, high) :: rest =>
    if least < low then (least, low - 1) :: gaps (high + 1) rest else gaps (high + 1) rest

def upper : List (Nat × Nat) := uppercase ++ everyOther uppercaseAlternating

def lower : List (Nat × Nat) := lowercase ++ everyOther lowercaseAlternating

def cased : List (Nat × Nat) := upper ++ lower ++ titlecase

def letter : List (Nat × Nat) := cased ++ modifierLetter ++ otherLetter

def mark : List (Nat × Nat) := nonspacingMark ++ spacingMark ++ enclosingMark

def number : List (Nat × Nat) := digitRanges ++ letterNumber ++ otherNumber

def punctuation : List (Nat × Nat) :=
  connector ++ dash ++ opening ++ closing ++ initialQuote ++ finalQuote ++ otherPunctuation

def symbol : List (Nat × Nat) := math ++ currency ++ modifierSymbol ++ otherSymbol

def lineSeparator : List (Nat × Nat) := [(0x2028, 0x2028)]

def paragraphSeparator : List (Nat × Nat) := [(0x2029, 0x2029)]

def separator : List (Nat × Nat) := blank ++ lineSeparator ++ paragraphSeparator

def control : List (Nat × Nat) := [(0x0, 0x1F), (0x7F, 0x9F)]

def privateUse : List (Nat × Nat) := [(0xE000, 0xF8FF), (0xF0000, 0xFFFFD), (0x100000, 0x10FFFD)]

def surrogate : List (Nat × Nat) := [(0xD800, 0xDFFF)]

def assigned : List (Nat × Nat) :=
  letter ++ mark ++ number ++ punctuation ++ symbol ++ separator ++ control ++ format ++
    privateUse ++ surrogate

def unassigned : List (Nat × Nat) := gaps 0 (assigned.mergeSort fun a b => a.1 ≤ b.1)

def other : List (Nat × Nat) := control ++ format ++ privateUse ++ unassigned

/-- The category or group of categories with a name. Surrogates, which are no characters, have none. -/
def byName? : String → Option (List (Nat × Nat))
  | "any" => some [(0, 0x10FFFF)]
  | "ascii" => some [(0, 0x7F)]
  | "assigned" => some assigned
  | "l" | "letter" => some letter
  | "lc" | "casedletter" => some cased
  | "lu" | "uppercaseletter" => some upper
  | "ll" | "lowercaseletter" => some lower
  | "lt" | "titlecaseletter" => some titlecase
  | "lm" | "modifierletter" => some modifierLetter
  | "lo" | "otherletter" => some otherLetter
  | "m" | "mark" | "combiningmark" => some mark
  | "mn" | "nonspacingmark" => some nonspacingMark
  | "mc" | "spacingmark" => some spacingMark
  | "me" | "enclosingmark" => some enclosingMark
  | "n" | "number" => some number
  | "nd" | "decimalnumber" | "digit" => some digitRanges
  | "nl" | "letternumber" => some letterNumber
  | "no" | "othernumber" => some otherNumber
  | "p" | "punctuation" | "punct" => some punctuation
  | "pc" | "connectorpunctuation" => some connector
  | "pd" | "dashpunctuation" => some dash
  | "ps" | "openpunctuation" => some opening
  | "pe" | "closepunctuation" => some closing
  | "pi" | "initialpunctuation" => some initialQuote
  | "pf" | "finalpunctuation" => some finalQuote
  | "po" | "otherpunctuation" => some otherPunctuation
  | "s" | "symbol" => some symbol
  | "sm" | "mathsymbol" => some math
  | "sc" | "currencysymbol" => some currency
  | "sk" | "modifiersymbol" => some modifierSymbol
  | "so" | "othersymbol" => some otherSymbol
  | "z" | "separator" => some separator
  | "zs" | "spaceseparator" => some blank
  | "zl" | "lineseparator" => some lineSeparator
  | "zp" | "paragraphseparator" => some paragraphSeparator
  | "c" | "other" => some other
  | "cc" | "control" | "cntrl" => some control
  | "cf" | "format" => some format
  | "co" | "privateuse" => some privateUse
  | "cn" | "unassigned" => some unassigned
  | _ => none

end Category

def binary? : String → Option (List (Nat × Nat))
  | "alphabetic" | "alpha" => some alphabeticRanges
  | "whitespace" | "wspace" | "space" => some spaceRanges
  | _ => none

/-- A name as it is looked up. The letter `c` alone, with `is` in front, is another name. -/
def normalName (name : List Char) : String :=
  let (led, stem) := match name with
    | i :: s :: rest => if i.toLower = 'i' ∧ s.toLower = 's' then (true, rest) else (false, name)
    | name => (false, name)
  let kept := (stem.filter fun c => c.toNat < 0x80 && c ∉ ['_', '-', ' ']).map Char.toLower
  if led ∧ kept = ['c'] then "isc" else String.ofList kept

/-- What is in front of the first place where a mark stands, and what is behind it. -/
def cut? (mark : List Char) : List Char → Option (List Char × List Char)
  | [] => none
  | c :: rest =>
    if mark.isPrefixOf (c :: rest) then some ([], (c :: rest).drop mark.length)
    else (cut? mark rest).map fun (front, back) => (c :: front, back)

/-- The code points that have a property, which is named alone or with a value. -/
def property? (name : List Char) : Option (List (Nat × Nat)) :=
  match (cut? ['!', '='] name).or ((cut? [':'] name).or (cut? ['='] name)) with
  | some (property, value) =>
    if normalName property ∈ ["gc", "generalcategory"] then Category.byName? (normalName value)
    else none
  | none => (binary? (normalName name)).or (Category.byName? (normalName name))

end ProjectContext.Unicode
