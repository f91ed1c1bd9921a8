import ProjectContext.Proofs.Pattern.Attempt

/-!
# Places that a pattern leads to

Every way of matching goes on in the text: it leads to a place further on in the same text, where the
character in front is the last one that was read, and it leaves the group as it was or puts it between
the two places (`Node.onward_of_ways`). This holds of every pattern, whatever it repeats and whatever
labels stand in it.
-/

namespace ProjectContext.Pattern

namespace Place

variable {p q r : Place} {set : CharSet}

/-- The second place comes by going on from the first one. -/
structure Onward (p q : Place) : Prop where
  read : ∃ read, p.rest = read ++ q.rest ∧ q.index = p.index + read.length ∧
    q.before = read.getLast?.or p.before
  grouped : q.group = p.group ∨
    ∃ start stop, q.group = some (start, stop) ∧ p.index ≤ start ∧ start ≤ stop ∧ stop ≤ q.index

namespace Onward

theorem le (onward : p.Onward q) : p.index ≤ q.index := by
  obtain ⟨read, -, index, -⟩ := onward.read
  omega

/-- Labels are not looked at, nor is the group where it stays as it is. -/
theorem of_same (index : q.index = p.index) (before : q.before = p.before) (rest : q.rest = p.rest)
    (group : q.group = p.group) : p.Onward q where
  read := ⟨[], by simp [rest], by simp [index], by simp [before]⟩
  grouped := .inl group

theorem refl (p : Place) : p.Onward p := of_same rfl rfl rfl rfl

theorem trans (first : p.Onward q) (second : q.Onward r) : p.Onward r where
  read := by
    obtain ⟨read, rest, index, before⟩ := first.read
    obtain ⟨further, rest', index', before'⟩ := second.read
    refine ⟨read ++ further, ?_, ?_, ?_⟩
    · rw [rest, rest', List.append_assoc]
    · rw [index', index, List.length_append, Nat.add_assoc]
    · rw [before', before, List.getLast?_append, Option.or_assoc]
  grouped := by
    have le := first.le
    have le' := second.le
    rcases second.grouped with same | ⟨start, stop, group, low, order, high⟩
    · rcases first.grouped with unchanged | ⟨start, stop, group, low, order, high⟩
      · exact .inl (same.trans unchanged)
      · exact .inr ⟨start, stop, same.trans group, low, order, Nat.le_trans high le'⟩
    · exact .inr ⟨start, stop, group, Nat.le_trans le low, order, high⟩

theorem mark (onward : p.Onward q) : p.Onward { q with group := some (p.index, q.index) } where
  read := onward.read
  grouped := .inr ⟨p.index, q.index, rfl, Nat.le_refl _, onward.le, Nat.le_refl _⟩

theorem of_pass? {label : Option Nat} (passed : p.pass? label = some q) : p.Onward q := by
  unfold pass? at passed
  split at passed
  · cases passed
    exact refl _
  · split at passed
    · cases passed
    · cases passed
      exact of_same rfl rfl rfl rfl

theorem of_read? (read : p.read? set = some q) : p.Onward q := by
  cases text : p.rest with
  | nil =>
    rw [read?_of_nil text] at read
    cases read
  | cons c rest =>
    by_cases member : set.mem c
    · rw [read?_of_mem text member] at read
      cases read
      exact ⟨⟨[c], text, rfl, rfl⟩, .inl rfl⟩
    · rw [read?_of_not_mem text member] at read
      cases read

theorem of_mem_runFrom (member : q ∈ p.runFrom set p.rest) : p.Onward q := by
  induction p using run_induction set with
  | stop p stop =>
    rw [runFrom_eq, stop] at member
    cases member
  | read p r read ih =>
    rw [runFrom_eq, read] at member
    rcases List.mem_cons.mp member with rfl | member
    · exact of_read? read
    · exact (of_read? read).trans (ih member)

end Onward

/-! ## Going on any number of times -/

theorem onward_of_mem_cons {places : List Place} (member : q ∈ p :: places) :
    q ∈ places ∨ p.Onward q := by
  rcases List.mem_cons.mp member with rfl | known
  · exact .inr (.refl q)
  · exact .inl known

/-- What the turns over some places add to the places found. -/
theorem onward_of_mem_foldl {σ : Type} {turn : σ × List Place → Place → σ × List Place}
    (sound : ∀ found p q, q ∈ (turn found p).2 → q ∈ found.2 ∨ p.Onward q) {ps : List Place}
    {found : σ × List Place} (member : q ∈ (ps.foldl turn found).2) :
    q ∈ found.2 ∨ ∃ p ∈ ps, p.Onward q := by
  induction ps generalizing found with
  | nil => exact .inl member
  | cons p ps ih =>
    rcases ih member with earlier | ⟨r, later, onward⟩
    · rcases sound found p q earlier with known | onward
      · exact .inl known
      · exact .inr ⟨p, List.mem_cons_self, onward⟩
    · exact .inr ⟨r, List.mem_cons_of_mem p later, onward⟩

/-- The turns over the places that one step leads to. -/
theorem onward_of_mem_turns {σ : Type} {turn : σ × List Place → Place → σ × List Place}
    (sound : ∀ found p q, q ∈ (turn found p).2 → q ∈ found.2 ∨ p.Onward q)
    {step : Place → List Place} (onward : ∀ q ∈ step p, p.Onward q) {marks : σ}
    {places : List Place} (member : q ∈ ((step p).foldl turn (marks, places)).2) :
    q ∈ places ∨ p.Onward q := by
  rcases onward_of_mem_foldl sound member with known | ⟨r, next, further⟩
  · exact .inl known
  · exact .inr ((onward r next).trans further)

theorem onward_of_mem_explore {further : Place → List Place}
    (sound : ∀ p, ∀ q ∈ further p, p.Onward q) {greedy : Bool} (fuel : Nat)
    (found : Marks × List Place) (p q : Place)
    (member : q ∈ (explore further greedy fuel found p).2) : q ∈ found.2 ∨ p.Onward q := by
  induction fuel generalizing found p q with
  | zero => exact .inl member
  | succ fuel ih =>
    obtain ⟨marks, places⟩ := found
    rw [explore] at member
    split at member
    · exact .inl member
    · split at member
      · rcases onward_of_mem_cons member with member | onward
        · exact onward_of_mem_turns ih (sound p) member
        · exact .inr onward
      · rcases onward_of_mem_turns ih (sound p) member with known | onward
        · exact onward_of_mem_cons known
        · exact .inr onward

theorem onward_of_mem_closure {further : Place → List Place}
    (sound : ∀ p, ∀ q ∈ further p, p.Onward q) {greedy : Bool} {room : Nat} {ps : List Place}
    (member : q ∈ closure further greedy room ps) : ∃ p ∈ ps, p.Onward q := by
  rcases onward_of_mem_foldl (onward_of_mem_explore sound _) (List.mem_reverse.mp member) with
    nothing | found
  · cases nothing
  · exact found

theorem onward_of_mem_descend {greedy : Bool} (steps : List (Place → List Place))
    (sound : ∀ step ∈ steps, ∀ p, ∀ q ∈ step p, p.Onward q) (found : List Marks × List Place)
    (p q : Place) (member : q ∈ (descend greedy steps found p).2) : q ∈ found.2 ∨ p.Onward q := by
  induction steps generalizing found p q with
  | nil => exact onward_of_mem_cons member
  | cons step steps ih =>
    obtain ⟨first, others⟩ := List.forall_mem_cons.mp sound
    obtain ⟨marks, places⟩ := found
    cases marks with
    | nil => exact onward_of_mem_cons member
    | cons marks later =>
      rw [descend] at member
      split at member
      · exact .inl member
      · split at member
        · rcases onward_of_mem_cons member with member | onward
          · exact onward_of_mem_turns (ih others) (first p) member
          · exact .inr onward
        · rcases onward_of_mem_turns (ih others) (first p) member with known | onward
          · exact onward_of_mem_cons known
          · exact .inr onward

theorem onward_of_mem_taking {greedy : Bool} {steps : List (Place → List Place)}
    (sound : ∀ step ∈ steps, ∀ p, ∀ q ∈ step p, p.Onward q) (member : q ∈ taking greedy steps p) :
    p.Onward q := by
  rcases onward_of_mem_descend steps sound _ p q (List.mem_reverse.mp member) with nothing | onward
  · cases nothing
  · exact onward

end Place

namespace Node

open Place

mutual

theorem onward_of_ways (node : Node) (p : Place) : ∀ q ∈ node.ways p, p.Onward q := by
  intro q member
  match node with
  | .empty =>
    rw [ways, List.mem_singleton] at member
    exact member ▸ .refl p
  | .chars set =>
    rw [ways, read_eq, Option.mem_toList] at member
    exact .of_read? member
  | .anchor a =>
    rw [ways] at member
    split at member
    · exact List.mem_singleton.mp member ▸ .refl p
    · cases member
  | .seq a b =>
    obtain ⟨r, first, second⟩ := List.mem_flatMap.mp (mem_of_mem_distinctFrom member)
    exact (onward_of_ways a p r first).trans (onward_of_ways b r q second)
  | .alt a b =>
    rcases List.mem_append.mp member with first | second
    · exact onward_of_ways a p q first
    · exact onward_of_ways b p q second
  | .join label x =>
    obtain ⟨r, inner, passed⟩ := List.mem_filterMap.mp (mem_of_mem_distinctFrom member)
    exact (onward_of_ways x p r inner).trans (.of_pass? passed)
  | .group x =>
    obtain ⟨r, inner, rfl⟩ := List.mem_map.mp member
    exact (onward_of_ways x p r inner).mark
  | .run label greedy set =>
    rw [ways] at member
    split at member
    · cases member
    · next r passed =>
      have reached : q ∈ r :: r.runFrom set r.rest := by
        split at member
        · exact List.mem_reverse.mp member
        · exact member
      rcases List.mem_cons.mp reached with rfl | further
      · exact .of_pass? passed
      · exact (Onward.of_pass? passed).trans (.of_mem_runFrom further)
  | .star label greedy x =>
    rw [ways] at member
    split at member
    · cases member
    · next r passed =>
      obtain ⟨s, start, onward⟩ := onward_of_mem_closure (fun p q next => by
        obtain ⟨s, inner, passed⟩ := List.mem_filterMap.mp next
        exact (onward_of_ways x p s inner).trans (.of_pass? passed)) member
      rw [List.mem_singleton.mp start] at onward
      exact (Onward.of_pass? passed).trans onward
  | .plus label greedy x =>
    rw [ways] at member
    split at member
    · cases member
    · next r passed =>
      obtain ⟨s, start, onward⟩ := onward_of_mem_closure (fun p q next => by
        split at next
        · cases next
        · split at next
          · cases next
          · next s passed => exact (Onward.of_pass? passed).trans (onward_of_ways x s q next)) member
      exact ((Onward.of_pass? passed).trans (onward_of_ways x r s start)).trans onward
  | .upTo greedy copies => exact onward_of_mem_taking (onward_of_waysOfEach copies) member

theorem onward_of_waysOfEach (copies : List Node) :
    ∀ step ∈ waysOfEach copies, ∀ p, ∀ q ∈ step p, p.Onward q := by
  intro step member p
  match copies with
  | [] => cases member
  | x :: xs =>
    rcases List.mem_cons.mp member with rfl | later
    · exact onward_of_ways x p
    · exact onward_of_waysOfEach xs step later p

end

end Node

end ProjectContext.Pattern
