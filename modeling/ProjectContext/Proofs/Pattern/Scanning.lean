import ProjectContext.Proofs.Pattern.Attempt

/-!
# Scanning without backtracking

A scanner walks through a text with a reader of declarations: where the reader finds one, its name
is given out and the walk goes on behind it, elsewhere it goes on by one character. A pattern that
does at each place what the reader does finds the names that the scanner finds
(`Node.groupTexts_eq_scan`).
-/

namespace ProjectContext.Pattern

/-- Reads a declaration at the start of a text: the declared name, and the text behind. -/
structure DeclarationReader where
  read : List Char → Option (List Char × List Char)
  shortens : ∀ {text name rest}, read text = some (name, rest) → rest.length < text.length

namespace DeclarationReader

/-- The names that are declared in a text, from the left to the right. -/
def scan (r : DeclarationReader) (text : List Char) : List String :=
  match _found : r.read text with
  | some (name, rest) => String.ofList name :: r.scan rest
  | none =>
    match text with
    | [] => []
    | _ :: rest => r.scan rest
termination_by text.length
decreasing_by
  · exact r.shortens ‹_›
  · exact Nat.lt_succ_self _

variable {r : DeclarationReader} {text name rest : List Char}

theorem scan_of_read (found : r.read text = some (name, rest)) :
    r.scan text = String.ofList name :: r.scan rest := by
  rw [scan]
  split
  · next found' =>
    rw [found] at found'
    cases found'
    rfl
  · next unread =>
    rw [found] at unread
    cases unread

theorem scan_cons_of_none {c : Char} (unread : r.read (c :: rest) = none) :
    r.scan (c :: rest) = r.scan rest := by
  rw [scan]
  split
  · next found =>
    rw [unread] at found
    cases found
  · rfl

theorem scan_nil : r.scan [] = [] := by
  rw [scan]
  split
  · next found => exact absurd (r.shortens found) (Nat.not_lt_zero _)
  · rfl

end DeclarationReader

namespace Node

open Place

/-- The pattern leads from each place to where the reader stops, with the name in its group. -/
def Reads (node : Node) (r : DeclarationReader) : Prop :=
  ∀ p : Place, (r.read p.rest = none → node.preferred? p = none) ∧
    ∀ name rest, r.read p.rest = some (name, rest) →
      ∃ q front back, node.preferred? p = some q ∧ q.rest = rest ∧ p.Reaches q ∧
        p.rest = front ++ name ++ back ∧
        q.group = some (p.index + front.length, p.index + front.length + name.length)

variable {node : Node} {r : DeclarationReader}

theorem findFrom_of_preferred {p q : Place}
    (found : node.preferred? { index := p.index, before := p.before, rest := p.rest } = some q) :
    node.findFrom p.index p.before p.rest = some (⟨p.index, q.index, q.group⟩, q) := by
  rw [findFrom.eq_def, found]

theorem findFrom_cons {index : Nat} {before : Option Char} {c : Char} {rest : List Char}
    (fails : node.preferred? { index, before, rest := c :: rest } = none) :
    node.findFrom index before (c :: rest) = node.findFrom (index + 1) (some c) rest := by
  rw [findFrom.eq_def, fails]

theorem findFrom_nil {index : Nat} {before : Option Char}
    (fails : node.preferred? { index, before, rest := [] } = none) :
    node.findFrom index before [] = none := by
  rw [findFrom.eq_def, fails]

/-- The match `m` from `p` to `q` gives out the name that the scanner gives out, and the scanner
goes on from where the match ends. -/
structure Finds (r : DeclarationReader) (p : Place) (m : Match) (q : Place) (name : List Char) :
    Prop where
  scanned : r.scan p.rest = String.ofList name :: r.scan q.rest
  reached : p.Reaches q
  shorter : q.rest.length < p.rest.length
  nonempty : m.start ≠ m.stop
  named : ∃ front back, p.rest = front ++ name ++ back ∧
    m.group = some (p.index + front.length, p.index + front.length + name.length)

/-- The first match, if there is one, is the first declaration that the scanner comes to. -/
theorem findFrom_reads (reads : node.Reads r) (p : Place) :
    (node.findFrom p.index p.before p.rest = none ∧ r.scan p.rest = []) ∨
    ∃ m q name, node.findFrom p.index p.before p.rest = some (m, q) ∧ Finds r p m q name := by
  -- Labels and the group of a place are not looked at, the character in front of it may be.
  obtain ⟨index, before, rest, passed, group⟩ := p
  induction rest generalizing index before with
  | nil =>
    have unread : r.read [] = none := by
      cases read : r.read [] with
      | none => rfl
      | some found => exact absurd (r.shortens read) (Nat.not_lt_zero _)
    exact .inl ⟨findFrom_nil ((reads _).1 unread), DeclarationReader.scan_nil⟩
  | cons c rest ih =>
    let p : Place := { index, before, rest := c :: rest }
    cases read : r.read (c :: rest) with
    | none =>
      have same : r.scan (c :: rest) = r.scan rest := DeclarationReader.scan_cons_of_none read
      have on : node.findFrom index before (c :: rest) = node.findFrom (index + 1) (some c) rest :=
        findFrom_cons ((reads p).1 read)
      simp only [on, same]
      rcases ih (index + 1) (some c) with nothing | ⟨m, q, name, found, finds⟩
      · exact .inl nothing
      · obtain ⟨front, back, split, marked⟩ := finds.named
        have step : p.Reaches { index := index + 1, before := some c, rest, passed, group } :=
          ⟨[c], rfl, rfl⟩
        refine .inr ⟨m, q, name, found, same.trans finds.scanned, step.trans finds.reached,
          Nat.lt_trans finds.shorter (Nat.lt_succ_self _), finds.nonempty, c :: front, back, ?_, ?_⟩
        · exact congrArg (c :: ·) split
        · rw [marked, List.length_cons, Nat.add_assoc, Nat.add_comm 1]
    | some found =>
      obtain ⟨name, behind⟩ := found
      obtain ⟨q, front, back, preferred, rest', reached, split, marked⟩ :=
        (reads p).2 name behind read
      have shorter : q.rest.length < (c :: rest).length := rest' ▸ r.shortens read
      refine .inr ⟨_, q, name, findFrom_of_preferred (p := p) preferred, ?_, reached, shorter, ?_,
        front, back, split, marked⟩
      · rw [DeclarationReader.scan_of_read read, rest']
      · obtain ⟨consumed, text, index'⟩ := reached
        have length : (c :: rest).length = consumed.length + q.rest.length :=
          (congrArg List.length text).trans List.length_append
        have start : p.index = index := rfl
        simp only [index', start]
        omega

/-- The text between two places. -/
theorem slice_of_reaches {text : List Char} {p : Place} (reached : (start text).Reaches p)
    {front name back : List Char} (split : p.rest = front ++ name ++ back) :
    (text.take (p.index + front.length + name.length)).drop (p.index + front.length) = name := by
  obtain ⟨read, whole, index⟩ := reached
  have index : p.index = read.length := by simpa [start] using index
  have whole : text = (read ++ front) ++ name ++ back := by
    rw [split] at whole
    simpa [start] using whole
  rw [whole, index, ← List.length_append, ← List.length_append, List.take_left, List.drop_left]

theorem matchesFrom_reads (reads : node.Reads r) (text : List Char) (fuel : Nat)
    (settled : Option Nat) (p : Place) (reached : (start text).Reaches p)
    (enough : p.rest.length < fuel) :
    (node.matchesFrom fuel settled p).filterMap (fun m => m.group.map fun (start, stop) =>
      String.ofList ((text.take stop).drop start)) = r.scan p.rest := by
  induction fuel generalizing settled p with
  | zero => exact absurd enough (Nat.not_lt_zero _)
  | succ fuel ih =>
    rw [matchesFrom]
    rcases findFrom_reads reads p with ⟨none, nothing⟩ | ⟨m, q, name, found, finds⟩
    · rw [none, nothing]
      rfl
    · obtain ⟨front, back, split, marked⟩ := finds.named
      -- The match has read something, so that no empty match can follow that is skipped.
      have rest := ih (some m.stop) q (reached.trans finds.reached)
        (Nat.lt_of_lt_of_le finds.shorter (Nat.le_of_lt_succ enough))
      simp only [found, finds.nonempty, false_and, if_false]
      rw [List.filterMap_cons, marked, rest, finds.scanned]
      simp only [Option.map_some, slice_of_reaches reached split]

/-- A pattern that reads as a reader does gives out the names that a scanner with it gives out. -/
theorem groupTexts_eq_scan (reads : node.Reads r) (text : List Char) :
    node.groupTexts text = r.scan text :=
  matchesFrom_reads reads text _ none (start text) (.refl _)
    (by have : (start text).rest = text := rfl; rw [this]; omega)

end Node

end ProjectContext.Pattern
