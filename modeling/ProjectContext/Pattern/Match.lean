import ProjectContext.Pattern.Node

/-!
# Matching

`Node.ways` lists the ways in which a pattern matches from one place of a text, the preferred one
first; of the ways that end at one place only the first is kept. `Node.matchesIn` walks through a
text and takes the preferred match at the first place that has one, again and again.
-/

namespace ProjectContext.Pattern

/-- A place in a text that a way of matching has reached, the labels that it has passed since the
last character, and the first group as it was last matched. -/
structure Place where
  index : Nat
  before : Option Char
  rest : List Char
  passed : List Nat := []
  group : Option (Nat × Nat) := none
deriving DecidableEq, Repr

/-- A set of indices, as spans from a first index to the one behind the last. -/
structure Marks where
  spans : List (Nat × Nat) := []
deriving DecidableEq, Repr

namespace Marks

def mem (m : Marks) (i : Nat) : Bool := m.spans.any fun span => span.1 ≤ i && i < span.2

/-- The set with one more index, which lengthens the latest span where it is next to it. -/
def insert (m : Marks) (i : Nat) : Marks :=
  match m.spans with
  | [] => ⟨[(i, i + 1)]⟩
  | (start, stop) :: spans =>
    if start ≤ stop ∧ i = stop then ⟨(start, i + 1) :: spans⟩
    else if start ≤ stop ∧ i + 1 = start then ⟨(i, stop) :: spans⟩
    else ⟨(i, i + 1) :: (start, stop) :: spans⟩

theorem mem_insert (m : Marks) (i j : Nat) : (m.insert i).mem j ↔ j = i ∨ m.mem j := by
  obtain ⟨spans⟩ := m
  cases spans with
  | nil => simp [insert, mem]; omega
  | cons span spans =>
    obtain ⟨start, stop⟩ := span
    simp only [insert, mem]
    split
    · simp only [List.any_cons, Bool.or_eq_true, Bool.and_eq_true, decide_eq_true_eq]
      grind
    · split
      · simp only [List.any_cons, Bool.or_eq_true, Bool.and_eq_true, decide_eq_true_eq]
        grind
      · simp only [List.any_cons, Bool.or_eq_true, Bool.and_eq_true, decide_eq_true_eq]
        grind

end Marks

namespace Place

def start (text : List Char) : Place := { index := 0, before := none, rest := text }

def read (set : CharSet) (p : Place) : List Place :=
  match p.rest with
  | [] => []
  | c :: rest =>
    if set.mem c then [{ p with index := p.index + 1, before := some c, rest, passed := [] }]
    else []

def runFrom (p : Place) (set : CharSet) : List Char → List Place
  | [] => []
  | c :: rest =>
    if set.mem c then
      let q := { p with index := p.index + 1, before := some c, rest, passed := [] }
      q :: q.runFrom set rest
    else []

/-- Passes a label, unless that has been passed since the last character. -/
def pass? (p : Place) : Option Nat → Option Place
  | none => some p
  | some label => if label ∈ p.passed then none else some { p with passed := label :: p.passed }

/-- The first of the places at each index, `marks` being the indices that are settled. -/
def distinctFrom (marks : Marks) : List Place → List Place
  | [] => []
  | p :: ps =>
    if marks.mem p.index then distinctFrom marks ps
    else p :: distinctFrom (marks.insert p.index) ps

def distinct (ps : List Place) : List Place := distinctFrom {} ps

/-- Lists the places that can be reached by going on any number of times, the last one first: after
the further ones if greed wants them, before them if not. An index that is settled is left alone. -/
def explore (further : Place → List Place) (greedy : Bool) :
    Nat → Marks × List Place → Place → Marks × List Place
  | 0, found, _ => found
  | fuel + 1, (marks, found), p =>
    if marks.mem p.index then (marks, found)
    else
      let marks := marks.insert p.index
      if greedy then
        let (marks, found) := (further p).foldl (explore further greedy fuel) (marks, found)
        (marks, p :: found)
      else (further p).foldl (explore further greedy fuel) (marks, p :: found)

/-- The places that can be reached from some places by going on any number of times, in order. Each
step goes forward in the text, so there are no more steps in a row than `room`. -/
def closure (further : Place → List Place) (greedy : Bool) (room : Nat) (ps : List Place) :
    List Place :=
  (ps.foldl (explore further greedy (room + 1)) ({}, [])).2.reverse

/-- Lists the places that can be reached by some of the steps from the first one on, the last one
first. For each step the indices where it has been tried are settled. -/
def descend (greedy : Bool) :
    List (Place → List Place) → List Marks × List Place → Place → List Marks × List Place
  | step :: steps, (marks :: later, found), p =>
    if marks.mem p.index then (marks :: later, found)
    else
      let marks := marks.insert p.index
      if greedy then
        let (later, found) := (step p).foldl (descend greedy steps) (later, found)
        (marks :: later, p :: found)
      else
        let (later, found) := (step p).foldl (descend greedy steps) (later, p :: found)
        (marks :: later, found)
  | _, (marks, found), p => (marks, p :: found)

/-- The places that can be reached from a place by some of the steps from the first one on, in
order. -/
def taking (greedy : Bool) (steps : List (Place → List Place)) (p : Place) : List Place :=
  (descend greedy steps (steps.map fun _ => {}, []) p).2.reverse

end Place

mutual

/-- The places to which a pattern leads from one place, the preferred one first. -/
def Node.ways : Node → Place → List Place
  | .empty, p => [p]
  | .chars set, p => p.read set
  | .anchor a, p => if a.holds p.before p.rest.head? then [p] else []
  | .seq a b, p => Place.distinct ((a.ways p).flatMap b.ways)
  | .alt a b, p => a.ways p ++ b.ways p
  | .join label x, p => Place.distinct ((x.ways p).filterMap (·.pass? label))
  | .group x, p => (x.ways p).map fun q => { q with group := some (p.index, q.index) }
  | .run label greedy set, p =>
    match p.pass? label with
    | none => []
    | some p =>
      let places := p :: p.runFrom set p.rest
      if greedy then places.reverse else places
  | .star label greedy x, p =>
    match p.pass? label with
    | none => []
    | some p =>
      Place.closure (fun q => (x.ways q).filterMap (·.pass? label)) greedy p.rest.length [p]
  | .plus label greedy x, p =>
    match p.pass? label with
    | none => []
    | some p =>
      let again (q : Place) :=
        if q.index = p.index then []
        else match q.pass? label with
          | none => []
          | some q => x.ways q
      Place.closure again greedy p.rest.length (x.ways p)
  | .upTo greedy copies, p => Place.taking greedy (Node.waysOfEach copies) p

def Node.waysOfEach : List Node → List (Place → List Place)
  | [] => []
  | x :: xs => x.ways :: Node.waysOfEach xs

end

/-- A match: where it starts and stops, and where its first group does, if that took part. -/
structure Match where
  start : Nat
  stop : Nat
  group : Option (Nat × Nat)
deriving DecidableEq, Repr

namespace Node

def preferred? (node : Node) (p : Place) : Option Place :=
  (node.ways { p with passed := [], group := none }).head?

def findFrom (node : Node) (index : Nat) (before : Option Char) (rest : List Char) :
    Option (Match × Place) :=
  match node.preferred? { index, before, rest } with
  | some q => some (⟨index, q.index, q.group⟩, q)
  | none =>
    match rest with
    | [] => none
    | c :: rest => findFrom node (index + 1) (some c) rest

/-- The matches from a place on, in at most `fuel` turns. A match without a character that starts at
`settled`, the end of the match before it, does not count, and the search goes on behind the next
character. -/
def matchesFrom (node : Node) : Nat → Option Nat → Place → List Match
  | 0, _, _ => []
  | fuel + 1, settled, p =>
    match node.findFrom p.index p.before p.rest with
    | none => []
    | some (m, q) =>
      if m.start = m.stop ∧ settled = some m.stop then
        match p.rest with
        | [] => []
        | c :: rest =>
          matchesFrom node fuel settled { index := p.index + 1, before := some c, rest }
      else m :: matchesFrom node fuel (some m.stop) q

def matchesIn (node : Node) (text : List Char) : List Match :=
  node.matchesFrom (2 * text.length + 2) none (Place.start text)

def groupTexts (node : Node) (text : List Char) : List String :=
  (node.matchesIn text).filterMap fun m => m.group.map fun (start, stop) =>
    String.ofList ((text.take stop).drop start)

end Node

end ProjectContext.Pattern
