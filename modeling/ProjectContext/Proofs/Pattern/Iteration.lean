import ProjectContext.Proofs.Pattern.Places
import ProjectContext.Proofs.Pattern.Scanning

/-!
# One match after the other

The matches that are found in a text are the preferred ones where they start, each judged in the whole
text; nothing that could be matched lies between them, apart from an empty match at the end of the
match before, which does not count (`Node.Iterates`). There is one such sequence of matches only
(`Node.Iterates.unique`), and the walk through a text finds it in the turns that it takes
(`Node.iterates_matchesFrom`).
-/

namespace ProjectContext.Pattern

/-! ## Places of a text -/

namespace Place

variable {text : List Char} {p q : Place}

/-- The place in front of the character with an index. -/
def ofIndex (text : List Char) (i : Nat) : Place :=
  { index := i, before := (text.take i).getLast?, rest := text.drop i }

/-- The place is one of the text; labels and the group do not matter. -/
structure In (text : List Char) (p : Place) : Prop where
  index : p.index ≤ text.length
  before : p.before = (text.take p.index).getLast?
  rest : p.rest = text.drop p.index

theorem in_ofIndex {i : Nat} (inside : i ≤ text.length) : (ofIndex text i).In text :=
  ⟨inside, rfl, rfl⟩

theorem Onward.inText (onward : p.Onward q) (within : p.In text) : q.In text := by
  obtain ⟨read, rest, index, before⟩ := onward.read
  have split : text.drop p.index = read ++ q.rest := within.rest.symm.trans rest
  refine ⟨?_, ?_, ?_⟩
  · have length : text.length - p.index = read.length + q.rest.length := by
      rw [← List.length_drop, split, List.length_append]
    have := within.index
    omega
  · rw [before, within.before, index, List.take_add, split, List.take_left, List.getLast?_append]
  · rw [index, ← List.drop_drop, split, List.drop_left]

end Place

namespace Node

open Place

variable {node : Node} {text : List Char} {p : Place} {m : Match} {i : Nat} {settled : Option Nat}
  {ms : List Match}

/-- The preferred match where it starts in a text. -/
def matchAt? (node : Node) (text : List Char) (i : Nat) : Option Match :=
  (node.preferred? (ofIndex text i)).map fun q => ⟨i, q.index, q.group⟩

theorem onward_of_preferred? {q : Place} (preferred : node.preferred? p = some q) :
    ({ p with passed := [], group := none } : Place).Onward q :=
  onward_of_ways node _ q (List.mem_of_head? preferred)

/-- A match stands in the text, and its group in the match. -/
structure Within (text : List Char) (m : Match) : Prop where
  start_le : m.start ≤ m.stop
  stop_le : m.stop ≤ text.length
  group : ∀ start stop, m.group = some (start, stop) →
    m.start ≤ start ∧ start ≤ stop ∧ stop ≤ m.stop

theorem within_of_matchAt? (inside : i ≤ text.length) (found : node.matchAt? text i = some m) :
    Within text m := by
  obtain ⟨q, preferred, rfl⟩ := Option.map_eq_some_iff.mp found
  have onward := onward_of_preferred? preferred
  refine ⟨onward.le, (onward.inText (in_ofIndex inside)).index, fun start stop grouped => ?_⟩
  rcases onward.grouped with same | ⟨start', stop', group, low, order, high⟩
  · have nothing : some (start, stop) = none := grouped.symm.trans same
    cases nothing
  · have marked : some (start, stop) = some (start', stop') := grouped.symm.trans group
    cases marked
    exact ⟨low, order, high⟩

/-! ## The next match -/

/-- Nothing is to be matched at an index, unless it is empty and at the end of the match before. -/
def Skips (node : Node) (text : List Char) (settled : Option Nat) (i : Nat) : Prop :=
  ∀ m, node.matchAt? text i = some m → m.start = m.stop ∧ settled = some i

/-- The matches from an index on; `settled` is the end of the match before. -/
inductive Iterates (node : Node) (text : List Char) : Option Nat → Nat → List Match → Prop
  | done {settled : Option Nat} {i : Nat}
      (skips : ∀ j, i ≤ j → j ≤ text.length → node.Skips text settled j) :
      Iterates node text settled i []
  | next {settled : Option Nat} {i : Nat} {m : Match} {ms : List Match} (least : i ≤ m.start)
      (inside : m.start ≤ text.length) (found : node.matchAt? text m.start = some m)
      (counts : ¬ (m.start = m.stop ∧ settled = some m.start))
      (skips : ∀ j, i ≤ j → j < m.start → node.Skips text settled j)
      (rest : Iterates node text (some m.stop) m.stop ms) : Iterates node text settled i (m :: ms)

namespace Iterates

theorem widen (here : node.Skips text settled i) (iterates : node.Iterates text settled (i + 1) ms) :
    node.Iterates text settled i ms := by
  have extend {stop : Nat} (skips : ∀ j, i + 1 ≤ j → j < stop → node.Skips text settled j) :
      ∀ j, i ≤ j → j < stop → node.Skips text settled j := by
    intro j least most
    rcases Nat.eq_or_lt_of_le least with rfl | later
    · exact here
    · exact skips j later most
  cases iterates with
  | done skips =>
    exact .done fun j least most => extend (fun j least most =>
      skips j least (Nat.le_of_lt_succ most)) j least (Nat.lt_succ_of_le most)
  | next least inside found counts skips rest =>
    exact .next (Nat.le_of_succ_le least) inside found counts (extend skips) rest

theorem unique {ms' : List Match} (first : node.Iterates text settled i ms)
    (second : node.Iterates text settled i ms') : ms = ms' := by
  induction first generalizing ms' with
  | done skips =>
    cases second with
    | done => rfl
    | next least inside found counts => exact absurd (skips _ least inside _ found) counts
  | @next settled i m ms least inside found counts skips rest ih =>
    cases second with
    | done skips' => exact absurd (skips' _ least inside _ found) counts
    | @next _ _ n ms' least' inside' found' counts' skips' rest' =>
      -- Neither starts before the other, because it would have been skipped there.
      have order : ¬ m.start < n.start := fun less => counts (skips' _ least less _ found)
      have order' : ¬ n.start < m.start := fun less => counts' (skips _ least' less _ found')
      have same : m.start = n.start := by omega
      rw [same, found'] at found
      obtain rfl : n = m := Option.some.inj found
      rw [ih rest']

theorem mem (iterates : node.Iterates text settled i ms) (member : m ∈ ms) :
    node.matchAt? text m.start = some m ∧ Within text m := by
  induction iterates with
  | done => cases member
  | next least inside found counts skips rest ih =>
    rcases List.mem_cons.mp member with rfl | later
    · exact ⟨found, within_of_matchAt? inside found⟩
    · exact ih later

theorem before (iterates : node.Iterates text settled i ms) {j : Nat} (least : i ≤ j)
    (inside : j ≤ text.length) (first : ∀ m ∈ ms.head?, j < m.start) :
    node.Skips text settled j := by
  cases iterates with
  | done skips => exact skips j least inside
  | next _ _ _ _ skips => exact skips j least (first _ rfl)

theorem behind (iterates : node.Iterates text settled i ms) (last : m ∈ ms.getLast?) {j : Nat}
    (least : m.stop ≤ j) (inside : j ≤ text.length) : node.Skips text (some m.stop) j := by
  induction iterates with
  | done => cases last
  | @next settled i n ms _ _ _ _ _ rest ih =>
    cases rest with
    | done skips =>
      cases last
      exact skips j least inside
    | next => exact ih last

/-- Each match starts behind the one before, because at one place there is one match. -/
theorem length_le (iterates : node.Iterates text settled i ms) :
    ms.length ≤ text.length + 1 - i ∧
      (settled = some i → (∀ m, node.matchAt? text i = some m → m.start = m.stop) →
        ms.length ≤ text.length - i) := by
  induction iterates with
  | done => exact ⟨Nat.zero_le _, fun _ _ => Nat.zero_le _⟩
  | @next settled i m ms least inside found counts skips rest ih =>
    have within := within_of_matchAt? inside found
    have later : ms.length ≤ text.length - m.start := by
      rcases Nat.eq_or_lt_of_le within.start_le with empty | longer
      · rw [empty]
        refine ih.2 rfl fun n again => ?_
        rw [← empty, found] at again
        cases again
        exact empty
      · have := ih.1
        omega
    rw [List.length_cons]
    refine ⟨by omega, fun settled empties => ?_⟩
    have distinct : i ≠ m.start := by
      rintro rfl
      exact counts ⟨empties m found, settled⟩
    omega

end Iterates

theorem Skips.eq_none (skips : node.Skips text settled i) (unsettled : settled ≠ some i) :
    node.matchAt? text i = none := by
  rw [Option.eq_none_iff_forall_ne_some]
  intro m found
  exact unsettled (skips m found).2

end Node

end ProjectContext.Pattern
