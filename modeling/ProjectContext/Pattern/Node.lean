import ProjectContext.Pattern.Expr
import ProjectContext.Text.Unicode.Property

/-!
# Patterns ready for matching

A pattern with its counted repetitions written out. Points where ways of matching meet carry a label
if a repetition around them could come back to them without reading a character; a way of matching
that meets a label twice at one place of the text goes in a circle and is given up there.
-/

namespace ProjectContext.Pattern

inductive Node
  | empty
  | chars (set : CharSet)
  | anchor (a : Anchor)
  | seq (a b : Node)
  | alt (a b : Node)
  /-- The ways of matching `x` meet. -/
  | join (label : Option Nat) (x : Node)
  /-- The first group of the pattern. -/
  | group (x : Node)
  /-- Any number of characters of a set. -/
  | run (label : Option Nat) (greedy : Bool) (set : CharSet)
  /-- Any number of times `x`, which always reads a character. -/
  | star (label : Option Nat) (greedy : Bool) (x : Node)
  /-- Once `x`, then any number of times more. -/
  | plus (label : Option Nat) (greedy : Bool) (x : Node)
  /-- Any number of the copies from the first one on, one after the other. -/
  | upTo (greedy : Bool) (copies : List Node)
deriving Repr

namespace Node

def sequence : List Node → Node
  | [] => .empty
  | x :: xs => xs.foldl .seq x

def literal : List Char → Node
  | [] => .empty
  | [c] => .chars (.single c)
  | c :: cs => .seq (.chars (.single c)) (literal cs)

def freshLabel (wanted : Bool) : StateM Nat (Option Nat) := do
  if wanted then
    let label ← get
    set (label + 1)
    return some label
  else return none

/-- The choice to match `x` or to leave it, in the order that greed wants. -/
def option (greedy : Bool) (x : Node) : Node :=
  if greedy then .alt x .empty else .alt .empty x

def ofRepetition (looped nullable : Bool) (min : Nat) (max : Option Nat) (greedy : Bool)
    (copy : StateM Nat Node) : StateM Nat Node := do
  match min, max with
  | 0, none =>
    if nullable then
      let x ← copy
      let again ← freshLabel looped
      let leave ← freshLabel looped
      return .join leave (option greedy (.plus again greedy x))
    else
      let label ← freshLabel looped
      match ← copy with
      | .chars set => return .run label greedy set
      | x => return .star label greedy x
  | n + 1, none =>
    let before ← (List.replicate n copy).mapM id
    match ← copy with
    | .chars set => return sequence (before ++ [.chars set, .run none greedy set])
    | x =>
      let again ← freshLabel looped
      return sequence (before ++ [.plus again greedy x])
  | min, some max =>
    let before ← (List.replicate min copy).mapM id
    if max ≤ min then return sequence before
    else
      let further ← (List.replicate (max - min) copy).mapM id
      let leave ← freshLabel looped
      return sequence (before ++ [.join leave (.upTo greedy further)])

mutual

/-- The pattern with its repetitions written out; `looped` says that a repetition around it could
come back to its points without reading a character. -/
def ofExpr (looped : Bool) : Expr → StateM Nat Node
  | .empty => return .empty
  | .literal cs => return literal cs
  | .chars set => return .chars set
  | .anchor a => return .anchor a
  | .repetition min max greedy x =>
    let nullable := x.minLength == 0
    ofRepetition looped nullable min max greedy (ofExpr (looped || (nullable && max.isNone)) x)
  | .capture index x => do
    let x ← ofExpr looped x
    return if index = 1 then .group x else x
  | .concat xs => do return sequence (← ofExprs looped xs)
  | .alternation xs => do
    let xs ← ofExprs looped xs
    let label ← freshLabel looped
    return .join label (match xs with
      | [] => .chars .nothing
      | x :: xs => xs.foldl .alt x)

def ofExprs (looped : Bool) : List Expr → StateM Nat (List Node)
  | [] => return []
  | x :: xs => do
    let y ← ofExpr looped x
    return y :: (← ofExprs looped xs)

end

end Node

namespace Expr

mutual

def weight : Expr → Nat
  | .empty | .anchor _ => 32
  | .literal cs => (cs.map fun c => 32 * c.utf8Size).sum
  | .chars set => set.weight
  | .repetition min max _ x => (max.getD (min + 1)) * (x.weight + 40)
  | .capture _ x => x.weight + 64
  | .concat xs | .alternation xs => weightSum xs + 32

def weightSum : List Expr → Nat
  | [] => 0
  | x :: xs => x.weight + weightSum xs

end

end Expr

def maxWeight : Nat := 10 * (1 <<< 20)

/-- The properties that this library has tables for, and a limit that most patterns are far below. -/
def Support.standard : Support where
  property? := Unicode.property?
  fits expr := expr.weight ≤ maxWeight

def Node.read (support : Support) (pattern : List Char) : Except ReadError Node := do
  let tree ← Tree.read pattern
  let (expr, _) ← tree.resolve support {}
  if support.fits expr then return ((Node.ofExpr false expr).run 0).1 else .error .tooLarge

end ProjectContext.Pattern
