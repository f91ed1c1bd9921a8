import ProjectContext.Pattern.Match
import ProjectContext.Text.Bytes

/-!
# Globs

The file name patterns of ignore rules. They are read into tokens, and the tokens into a pattern
over the bytes of a path, each byte taken as the character of its number.
-/

namespace ProjectContext.Ignore

inductive GlobToken
  | literal (c : Char)
  /-- One byte of a name. -/
  | any
  /-- Any bytes of a name. -/
  | zeroOrMore
  /-- Any directories in front. -/
  | directoriesBefore
  /-- Anything below. -/
  | everythingBelow
  /-- Any directories between, with the separators around them. -/
  | directoriesBetween
  | chars (negated : Bool) (ranges : List (Char × Char))
  | alternates (branches : List (List GlobToken))

inductive GlobError
  | rangeReversed (low high : Char)
  | danglingEscape
  | alternatesUnopened
  | alternatesUnclosed
deriving DecidableEq, Repr

def GlobError.message : GlobError → String
  | .rangeReversed low high =>
    "invalid range; '" ++ low.toString ++ "' > '" ++ high.toString ++ "'"
  | .danglingEscape => "dangling '\\'"
  | .alternatesUnopened =>
    "unopened alternate group; missing '\x7B' (maybe escape '\x7D' with '[\x7D]'?)"
  | .alternatesUnclosed =>
    "unclosed alternate group; missing '\x7D' (maybe escape '\x7B' with '[\x7B]'?)"

/-! ## Reading -/

/-- What has been read of a glob: the tokens of the current branch, the last one first, the braces
that are open, each with the tokens in front of it and the branches that are complete, and the last
character. After a bracket that nothing closes, brackets stand for themselves. -/
structure GlobReader where
  rest : List Char
  last : Option Char := none
  tokens : List GlobToken := []
  opened : List (List GlobToken × List (List GlobToken)) := []
  bracketUnclosed : Bool := false

inductive GlobClass
  | unclosed
  | reversed (low high : Char)
  | closed (ranges : List (Char × Char)) (rest : List Char)

/-- Reads the members of a bracket, the last range first. A hyphen extends the last range to the
member behind it. -/
def GlobClass.read (first inRange : Bool) (ranges : List (Char × Char)) : List Char → GlobClass
  | [] => .unclosed
  | c :: rest =>
    let extend : GlobClass := match ranges with
      | (low, _) :: earlier =>
        if c < low then .reversed low c else GlobClass.read false false ((low, c) :: earlier) rest
      | [] => .unclosed
    if c = ']' && !first then
      .closed ((if inRange then ('-', '-') :: ranges else ranges).reverse) rest
    else if inRange then extend
    else if c = '-' && !first then GlobClass.read false true ranges rest
    else GlobClass.read false false ((c, c) :: ranges) rest

namespace GlobReader

def push (r : GlobReader) (token : GlobToken) (last : Char) (rest : List Char) : GlobReader :=
  { r with tokens := token :: r.tokens, last := some last, rest }

def pushStars (r : GlobReader) (rest : List Char) : GlobReader :=
  (r.push .zeroOrMore '*' rest).push .zeroOrMore '*' rest

/-- Puts the token of a double star in place of the separator in front of it, unless a double star
stands there. -/
def pushRecursive (r : GlobReader) (token : GlobToken) (last : Char) (rest : List Char) :
    GlobReader :=
  match r.tokens with
  | .directoriesBefore :: _ | .everythingBelow :: _ => { r with last := some last, rest }
  | _ :: tokens => { r with tokens := token :: tokens, last := some last, rest }
  | [] => { r with tokens := [token], last := some last, rest }

/-- The text behind two stars. They are special where they make up a whole component. -/
def readStars (r : GlobReader) (rest : List Char) : GlobReader :=
  if r.tokens.isEmpty then
    match rest with
    | [] => r.push .directoriesBefore '*' []
    | '/' :: rest => r.push .directoriesBefore '/' rest
    | rest => r.pushStars rest
  else if r.last = some '/' ∨ (!r.opened.isEmpty ∧ (r.last = some ',' ∨ r.last = some '\x7B')) then
    match rest with
    | [] => r.pushRecursive .everythingBelow '*' []
    | '/' :: rest => r.pushRecursive .directoriesBetween '/' rest
    | c :: rest =>
      if !r.opened.isEmpty && (c == ',' || c == '\x7D') then
        r.pushRecursive .everythingBelow '*' (c :: rest)
      else r.pushStars (c :: rest)
  else r.pushStars rest

def readBracket (r : GlobReader) (rest : List Char) : Except GlobError GlobReader :=
  let (negated, members) := match rest with
    | '!' :: members | '^' :: members => (true, members)
    | members => (false, members)
  match GlobClass.read true false [] members with
  | .unclosed => .ok { r.push (.literal '[') '[' rest with bracketUnclosed := true }
  | .reversed low high => .error (.rangeReversed low high)
  | .closed ranges rest => .ok (r.push (.chars negated ranges) ']' rest)

def step (r : GlobReader) : Except GlobError GlobReader :=
  match r.rest with
  | [] => .ok r
  | '?' :: rest => .ok (r.push .any '?' rest)
  | '*' :: '*' :: rest => .ok (r.readStars rest)
  | '*' :: rest => .ok (r.push .zeroOrMore '*' rest)
  | '[' :: rest =>
    if r.bracketUnclosed then .ok (r.push (.literal '[') '[' rest) else r.readBracket rest
  | '\x7B' :: rest => .ok { r with
      opened := (r.tokens, []) :: r.opened, tokens := [], last := some '\x7B', rest }
  | '\x7D' :: rest =>
    match r.opened with
    | [] => .error .alternatesUnopened
    | (tokens, branches) :: opened =>
      let branches := (r.tokens.reverse :: branches).reverse
      .ok { r with
        tokens := .alternates branches :: tokens, opened, last := some '\x7D', rest }
  | ',' :: rest =>
    match r.opened with
    | [] => .ok (r.push (.literal ',') ',' rest)
    | (tokens, branches) :: opened => .ok { r with
        opened := (tokens, r.tokens.reverse :: branches) :: opened, tokens := []
        last := some ',', rest }
  | '\\' :: [] => .error .danglingEscape
  | '\\' :: c :: rest => .ok (r.push (.literal c) c rest)
  | c :: rest => .ok (r.push (.literal c) c rest)

def finish : Nat → GlobReader → Except GlobError GlobReader
  | 0, r => .ok r
  | fuel + 1, r => if r.rest.isEmpty then .ok r else do finish fuel (← r.step)

end GlobReader

def GlobToken.read (text : List Char) : Except GlobError (List GlobToken) := do
  let r ← GlobReader.finish text.length { rest := text }
  if r.opened.isEmpty then return r.tokens.reverse else .error .alternatesUnclosed

/-! ## Meaning -/

open Pattern in
def byteNode (b : UInt8) : Node := .chars (.single (Char.ofNat b.toNat))

open Pattern in
def slash : Node := .chars (.single '/')

open Pattern in
def anything : Node := .run none true (.compl .nothing)

open Pattern in
def inName : CharSet := .compl (.single '/')

open Pattern in
/-- The bytes between two characters: those of the first, then a range from its last byte to the
first byte of the second, then those of the second. -/
def rangeBytes : Char × Char → CharSet
  | (low, high) =>
    let single (b : UInt8) : CharSet := .single (Char.ofNat b.toNat)
    let lows := Utf8.encodeChar low
    if low = high then CharSet.unionAll (lows.map single)
    else
      let highs := Utf8.encodeChar high
      let between : CharSet := .range (Char.ofNat (lows.getLastD 0).toNat)
        (Char.ofNat (highs.headD 0).toNat) false
      CharSet.unionAll (lows.dropLast.map single ++ between :: highs.tail.map single)

mutual

def GlobToken.nodes : GlobToken → List Pattern.Node
  | .literal c => (Utf8.encodeChar c).map byteNode
  | .any => [.chars inName]
  | .zeroOrMore => [.run none true inName]
  | .directoriesBefore => [.join none (.alt (.alt slash .empty) (.seq anything slash))]
  | .everythingBelow => [.seq slash anything]
  | .directoriesBetween => [.join none (.alt slash (.seq slash (.seq anything slash)))]
  | .chars negated ranges =>
    let set := Pattern.CharSet.unionAll (ranges.map rangeBytes)
    [.chars (if negated then .compl set else set)]
  | .alternates branches =>
    match GlobToken.branchNodes branches with
    | [] => []
    | x :: xs => [.join none (xs.foldl .alt x)]

def GlobToken.nodesAll : List GlobToken → List Pattern.Node
  | [] => []
  | token :: tokens => token.nodes ++ GlobToken.nodesAll tokens

def GlobToken.branchNodes : List (List GlobToken) → List Pattern.Node
  | [] => []
  | branch :: branches =>
    match GlobToken.nodesAll branch with
    | [] => GlobToken.branchNodes branches
    | nodes => Pattern.Node.sequence nodes :: GlobToken.branchNodes branches

end

structure Glob where
  node : Pattern.Node

namespace Glob

def ofTokens : List GlobToken → Glob
  | [.directoriesBefore] => ⟨anything⟩
  | tokens => ⟨Pattern.Node.sequence (GlobToken.nodesAll tokens)⟩

def read (text : List Char) : Except GlobError Glob := do
  return ofTokens (← GlobToken.read text)

def holds (g : Glob) (path : Bytes) : Bool :=
  let text := path.map fun b => Char.ofNat b.toNat
  (g.node.ways (Pattern.Place.start text)).any fun p => p.rest.isEmpty

end Glob

end ProjectContext.Ignore
