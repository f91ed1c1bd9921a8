import ProjectContext.Pattern.Match

/-!
# Going on from a pattern

What follows a pattern is tried at the places that it leads to, in order, and the first success
counts: `Node.attempt`. Where the success of what follows depends on the place in the text alone, it
does not matter that only the first of the ways to a place is kept, and the attempt of a sequence is
the attempt of its items one in another (`Node.attempt_sequence`). A greedy run that what follows
cannot break up is read to its end (`Node.attempt_run_greedy`).
-/

namespace ProjectContext.Pattern

namespace Place

variable {p q r : Place} {k : Place → Option Place} {set : CharSet}

/-- The second place is the first one or behind it in the text. -/
def Reaches (p q : Place) : Prop :=
  ∃ read, p.rest = read ++ q.rest ∧ q.index = p.index + read.length

theorem Reaches.refl (p : Place) : p.Reaches p := ⟨[], rfl, rfl⟩

theorem Reaches.trans (first : p.Reaches q) (second : q.Reaches r) : p.Reaches r := by
  obtain ⟨read, rest, index⟩ := first
  obtain ⟨further, rest', index'⟩ := second
  refine ⟨read ++ further, ?_, ?_⟩
  · rw [rest, rest', List.append_assoc]
  · rw [index', index, List.length_append, Nat.add_assoc]

/-- The two are one place of the text. -/
def Alike (p q : Place) : Prop := p.index = q.index ∧ p.rest = q.rest

theorem Reaches.alike (first : p.Reaches q) (second : p.Reaches r) (same : q.index = r.index) :
    q.Alike r := by
  obtain ⟨read, rest, index⟩ := first
  obtain ⟨read', rest', index'⟩ := second
  have length : read.length = read'.length := by omega
  exact ⟨same, (List.append_inj (rest.symm.trans rest') length).2⟩

/-- Whether there is a result depends on the place in the text alone. -/
def Steady (k : Place → Option Place) : Prop :=
  ∀ p q, p.Alike q → (k p).isSome = (k q).isSome

theorem steady_some : Steady some := fun _ _ _ => rfl

theorem Steady.eq_none (steady : Steady k) (alike : p.Alike q) (fails : k p = none) :
    k q = none := by
  have same := steady p q alike
  rw [fails] at same
  exact Option.isNone_iff_eq_none.mp (by simpa using same.symm)

/-! ## Leaving places out -/

theorem findSome?_distinctFrom (steady : Steady k) (marks : Marks) {ps : List Place}
    (settled : ∀ q ∈ ps, marks.mem q.index → k q = none)
    (coherent : ∀ p ∈ ps, ∀ q ∈ ps, p.index = q.index → p.Alike q) :
    (distinctFrom marks ps).findSome? k = ps.findSome? k := by
  induction ps generalizing marks with
  | nil => rfl
  | cons p ps ih =>
    have later : ∀ a ∈ ps, ∀ b ∈ ps, a.index = b.index → a.Alike b := fun a first b second =>
      coherent a (List.mem_cons_of_mem _ first) b (List.mem_cons_of_mem _ second)
    rw [distinctFrom]
    split
    · next known =>
      -- What is left out has been tried before, without success.
      rw [List.findSome?_cons, settled p List.mem_cons_self known]
      exact ih marks (fun q member => settled q (List.mem_cons_of_mem _ member)) later
    · rw [List.findSome?_cons, List.findSome?_cons]
      cases tried : k p with
      | some found => rfl
      | none =>
        refine ih _ (fun q member known => ?_) later
        rcases (marks.mem_insert p.index q.index).mp known with same | known
        · exact steady.eq_none (coherent p List.mem_cons_self q (List.mem_cons_of_mem _ member)
            same.symm) tried
        · exact settled q (List.mem_cons_of_mem _ member) known

theorem findSome?_distinct (steady : Steady k) {ps : List Place}
    (reached : ∀ q ∈ ps, p.Reaches q) : (distinct ps).findSome? k = ps.findSome? k :=
  findSome?_distinctFrom steady {} (fun _ _ known => by cases known)
    fun _ first _ second same => (reached _ first).alike (reached _ second) same

theorem mem_of_mem_distinctFrom {marks : Marks} {ps : List Place}
    (member : q ∈ distinctFrom marks ps) : q ∈ ps := by
  induction ps generalizing marks with
  | nil => exact member
  | cons p ps ih =>
    rw [distinctFrom] at member
    split at member
    · exact List.mem_cons_of_mem _ (ih member)
    · rcases List.mem_cons.mp member with rfl | member
      · exact List.mem_cons_self
      · exact List.mem_cons_of_mem _ (ih member)

/-! ## Reading characters -/

def read? (set : CharSet) (p : Place) : Option Place := (p.read set).head?

/-- The end of the longest run of characters of a set. -/
def skip (set : CharSet) (p : Place) : Place := (p.runFrom set p.rest).getLastD p

theorem read_eq (set : CharSet) (p : Place) : p.read set = (p.read? set).toList := by
  unfold read? read
  split
  · rfl
  · split <;> rfl

theorem read?_of_nil (text : p.rest = []) (set : CharSet) : p.read? set = none := by
  rw [read?, read, text]
  rfl

theorem read?_of_mem {c : Char} {rest : List Char} (text : p.rest = c :: rest)
    (member : set.mem c) : p.read? set =
      some { p with index := p.index + 1, before := some c, rest, passed := [] } := by
  rw [read?, read, text]
  simp [member]

theorem read?_of_not_mem {c : Char} {rest : List Char} (text : p.rest = c :: rest)
    (other : ¬ set.mem c) : p.read? set = none := by
  rw [read?, read, text]
  simp [other]

theorem reaches_of_read? (read : p.read? set = some q) :
    p.Reaches q ∧ q.group = p.group ∧ ∃ c, set.mem c ∧ p.rest = c :: q.rest := by
  cases text : p.rest with
  | nil =>
    rw [read?_of_nil text] at read
    cases read
  | cons c rest =>
    by_cases member : set.mem c
    · rw [read?_of_mem text member] at read
      cases read
      exact ⟨⟨[c], text, rfl⟩, rfl, c, member, rfl⟩
    · rw [read?_of_not_mem text member] at read
      cases read

theorem read?_alike (alike : p.Alike q) (set : CharSet) :
    (p.read? set = none ∧ q.read? set = none) ∨
      ∃ r s, p.read? set = some r ∧ q.read? set = some s ∧ r.Alike s := by
  obtain ⟨index, same⟩ := alike
  cases text : p.rest with
  | nil => exact .inl ⟨read?_of_nil text set, read?_of_nil (same ▸ text) set⟩
  | cons c rest =>
    have text' : q.rest = c :: rest := same ▸ text
    by_cases member : set.mem c
    · exact .inr ⟨_, _, read?_of_mem text member, read?_of_mem text' member, by simp [Alike, index]⟩
    · exact .inl ⟨read?_of_not_mem text member, read?_of_not_mem text' member⟩

theorem runFrom_eq (set : CharSet) (p : Place) : p.runFrom set p.rest =
    match p.read? set with
    | none => []
    | some q => q :: q.runFrom set q.rest := by
  cases text : p.rest with
  | nil =>
    rw [read?_of_nil text]
    rfl
  | cons c rest =>
    rw [runFrom]
    by_cases member : set.mem c
    · rw [if_pos member, read?_of_mem text member]
    · rw [if_neg member, read?_of_not_mem text member]

theorem skip_of_stop (stop : p.read? set = none) : p.skip set = p := by
  rw [skip, runFrom_eq, stop]
  rfl

theorem skip_of_read? (read : p.read? set = some q) : p.skip set = q.skip set := by
  rw [skip, runFrom_eq, read, skip, List.getLastD_cons]

theorem run_induction {motive : Place → Prop} (set : CharSet)
    (stop : ∀ p, p.read? set = none → motive p)
    (read : ∀ p q, p.read? set = some q → motive q → motive p) (p : Place) : motive p := by
  cases next : p.read? set with
  | none => exact stop p next
  | some q =>
    obtain ⟨-, -, c, -, text⟩ := reaches_of_read? next
    exact read p q next (run_induction set stop read q)
termination_by p.rest.length
decreasing_by simp [text]

theorem reaches_skip (set : CharSet) (p : Place) :
    p.Reaches (p.skip set) ∧ (p.skip set).group = p.group := by
  induction p using run_induction set with
  | stop p stop =>
    rw [skip_of_stop stop]
    exact ⟨.refl p, rfl⟩
  | read p q read ih =>
    obtain ⟨reached, group, -⟩ := reaches_of_read? read
    rw [skip_of_read? read]
    exact ⟨reached.trans ih.1, ih.2.trans group⟩

theorem skip_rest (set : CharSet) (p : Place) : (p.skip set).rest = p.rest.dropWhile set.mem := by
  induction p using run_induction set with
  | stop p stop =>
    rw [skip_of_stop stop]
    cases text : p.rest with
    | nil => rfl
    | cons c rest =>
      by_cases member : set.mem c
      · rw [read?_of_mem text member] at stop
        cases stop
      · rw [List.dropWhile_cons_of_neg member]
  | read p q read ih =>
    obtain ⟨-, -, c, member, text⟩ := reaches_of_read? read
    rw [skip_of_read? read, ih, text, List.dropWhile_cons_of_pos member]

end Place

namespace Node

open Place

variable {a b x node : Node} {nodes : List Node} {p q : Place} {k : Place → Option Place}
  {set : CharSet} {greedy : Bool}

/-- The first success of `k` at the places that a pattern leads to. -/
def attempt (node : Node) (k : Place → Option Place) (p : Place) : Option Place :=
  (node.ways p).findSome? k

theorem preferred?_eq (node : Node) (p : Place) :
    node.preferred? p = node.attempt some { p with passed := [], group := none } := by
  rw [preferred?, attempt]
  cases node.ways { p with passed := [], group := none } <;> rfl

/-- Patterns whose ways do not depend on what stands in front of a place or on labels. -/
inductive Plain : Node → Prop
  | chars (set : CharSet) : Plain (.chars set)
  | seq {a b : Node} : Plain a → Plain b → Plain (.seq a b)
  | alt {a b : Node} : Plain a → Plain b → Plain (.alt a b)
  | join {x : Node} : Plain x → Plain (.join none x)
  | group {x : Node} : Plain x → Plain (.group x)
  | run (greedy : Bool) (set : CharSet) : Plain (.run none greedy set)
  | option {x : Node} (greedy : Bool) : Plain x → Plain (.upTo greedy [x])

theorem ways_option (greedy : Bool) (x : Node) (p : Place) :
    (upTo greedy [x]).ways p = if greedy then x.ways p ++ [p] else p :: x.ways p := by
  have collected (found : List Marks × List Place) (ps : List Place) :
      ps.foldl (fun found q => (found.1, q :: found.2)) found =
        (found.1, ps.reverse ++ found.2) := by
    induction ps generalizing found with
    | nil => rfl
    | cons q ps ih =>
      rw [List.foldl_cons, ih]
      simp
  have fresh : ({} : Marks).mem p.index = false := rfl
  cases greedy <;> simp [ways, waysOfEach, taking, descend, fresh, collected]

theorem ways_join (x : Node) (p : Place) : (join none x).ways p = distinct (x.ways p) := by
  simp [ways, Place.pass?]

theorem mem_runFrom (member : q ∈ p.runFrom set p.rest) : p.Reaches q := by
  induction p using run_induction set with
  | stop p stop =>
    rw [runFrom_eq, stop] at member
    cases member
  | read p r read ih =>
    rw [runFrom_eq, read] at member
    have reached := (reaches_of_read? read).1
    rcases List.mem_cons.mp member with rfl | member
    · exact reached
    · exact reached.trans (ih member)

theorem Plain.reaches (plain : Plain node) (member : q ∈ node.ways p) : p.Reaches q := by
  induction plain generalizing p q with
  | chars set =>
    rw [ways, read_eq, Option.mem_toList] at member
    exact (reaches_of_read? member).1
  | seq _ _ first second =>
    obtain ⟨r, before, after⟩ := List.mem_flatMap.mp (mem_of_mem_distinctFrom member)
    exact (first before).trans (second after)
  | alt _ _ first second => exact (List.mem_append.mp member).elim first second
  | join _ ih =>
    rw [ways_join] at member
    exact ih (mem_of_mem_distinctFrom member)
  | group _ ih =>
    obtain ⟨r, inner, rfl⟩ := List.mem_map.mp member
    have reached : p.Reaches r := ih inner
    exact reached
  | run greedy set =>
    have member : q ∈ p :: p.runFrom set p.rest := by
      simp only [ways, Place.pass?] at member
      split at member
      · exact List.mem_reverse.mp member
      · exact member
    rcases List.mem_cons.mp member with rfl | member
    · exact .refl q
    · exact mem_runFrom member
  | option greedy _ ih =>
    rw [ways_option] at member
    split at member
    · rcases List.mem_append.mp member with member | last
      · exact ih member
      · exact List.mem_singleton.mp last ▸ .refl p
    · rcases List.mem_cons.mp member with rfl | member
      · exact .refl q
      · exact ih member

/-! ## The attempts of patterns -/

theorem findSome?_singleton (k : Place → Option Place) (p : Place) : [p].findSome? k = k p := by
  rw [List.findSome?_cons]
  cases k p <;> rfl

theorem attempt_empty (k : Place → Option Place) (p : Place) : empty.attempt k p = k p :=
  findSome?_singleton k p

theorem attempt_chars (set : CharSet) (k : Place → Option Place) (p : Place) :
    (chars set).attempt k p = (p.read? set).bind k := by
  rw [attempt, ways, read_eq]
  cases p.read? set <;> simp

theorem findSome?_flatMap (f : Place → List Place) (k : Place → Option Place) (ps : List Place) :
    (ps.flatMap f).findSome? k = ps.findSome? fun p => (f p).findSome? k := by
  induction ps with
  | nil => rfl
  | cons p ps ih =>
    rw [List.flatMap_cons, List.findSome?_append, List.findSome?_cons, ih]
    cases (f p).findSome? k <;> rfl

theorem attempt_seq (first : Plain a) (second : Plain b) (steady : Steady k) (p : Place) :
    (seq a b).attempt k p = a.attempt (b.attempt k) p := by
  have reached : ∀ q ∈ (a.ways p).flatMap b.ways, p.Reaches q := by
    intro q member
    obtain ⟨r, before, after⟩ := List.mem_flatMap.mp member
    exact (first.reaches before).trans (second.reaches after)
  rw [attempt, ways, findSome?_distinct steady reached, findSome?_flatMap]
  rfl

theorem attempt_alt (a b : Node) (k : Place → Option Place) (p : Place) :
    (alt a b).attempt k p = (a.attempt k p).or (b.attempt k p) :=
  List.findSome?_append

theorem attempt_join (plain : Plain x) (steady : Steady k) (p : Place) :
    (join none x).attempt k p = x.attempt k p := by
  rw [attempt, ways_join, findSome?_distinct steady fun q => plain.reaches]
  rfl

theorem attempt_group (x : Node) (k : Place → Option Place) (p : Place) :
    (group x).attempt k p =
      x.attempt (fun q => k { q with group := some (p.index, q.index) }) p :=
  List.findSome?_map

theorem attempt_option (x : Node) (k : Place → Option Place) (p : Place) :
    (upTo greedy [x]).attempt k p =
      if greedy then (x.attempt k p).or (k p) else (k p).or (x.attempt k p) := by
  rw [attempt, ways_option]
  split
  · rw [List.findSome?_append]
    cases tried : k p <;> simp [attempt, tried]
  · rw [List.findSome?_cons]
    cases tried : k p <;> simp [attempt]

/-- A lazy run takes one more character only where what follows fails. -/
theorem attempt_run_lazy (set : CharSet) (k : Place → Option Place) (p : Place) :
    (run none false set).attempt k p =
      (k p).or ((p.read? set).bind ((run none false set).attempt k)) := by
  have ways_eq (p : Place) : (run none false set).ways p = p :: p.runFrom set p.rest := rfl
  rw [attempt, ways_eq, List.findSome?_cons, runFrom_eq]
  cases tried : k p with
  | some found => rfl
  | none => cases p.read? set <;> rfl

theorem attempt_run_eq (set : CharSet) (k : Place → Option Place) (p : Place) :
    (run none true set).attempt k p =
      ((p.read? set).bind ((run none true set).attempt k)).or (k p) := by
  have ways_eq (p : Place) :
      (run none true set).ways p = (p.runFrom set p.rest).reverse ++ [p] := by
    simp [ways, Place.pass?]
  rw [attempt, ways_eq, List.findSome?_append, findSome?_singleton, runFrom_eq]
  cases p.read? set with
  | none => rfl
  | some q => rw [List.reverse_cons, ← ways_eq]; rfl

theorem isSome_skip (carries : ∀ q r, q.read? set = some r → (k q).isSome → (k r).isSome)
    (p : Place) (success : (k p).isSome) : (k (p.skip set)).isSome := by
  induction p using run_induction set with
  | stop p stop => rwa [skip_of_stop stop]
  | read p q read ih =>
    rw [skip_of_read? read]
    exact ih (carries p q read success)

/-- What never succeeds in the midst of a run alone, but one character further on as well, is tried
at its end only. -/
theorem attempt_run_carried
    (carries : ∀ q r, q.read? set = some r → (k q).isSome → (k r).isSome) (p : Place) :
    (run none true set).attempt k p = k (p.skip set) := by
  induction p using run_induction set with
  | stop p stop => rw [attempt_run_eq, stop, skip_of_stop stop]; rfl
  | read p q read ih =>
    rw [attempt_run_eq, read, Option.bind_some, ih, ← skip_of_read? read]
    cases ended : k (p.skip set) with
    | some found => rfl
    | none =>
      have fails : k p = none := by
        rw [← Option.not_isSome_iff_eq_none]
        intro success
        have reached := isSome_skip carries p success
        rw [ended] at reached
        cases reached
      rw [fails, Option.or_none]

/-- What fails in the midst of a run is tried at its end only. -/
theorem attempt_run_greedy (stuck : ∀ q r, q.read? set = some r → k q = none) (p : Place) :
    (run none true set).attempt k p = k (p.skip set) := by
  refine attempt_run_carried (fun q r read success => ?_) p
  rw [stuck q r read] at success
  cases success

theorem Plain.steady_attempt (plain : Plain node) (steady : Steady k) :
    Steady (node.attempt k) := by
  induction plain generalizing k with
  | chars set =>
    intro p q alike
    rw [attempt_chars, attempt_chars]
    rcases read?_alike alike set with ⟨first, second⟩ | ⟨r, s, first, second, alike⟩
    · rw [first, second]
    · rw [first, second]
      exact steady r s alike
  | seq first second ih₁ ih₂ =>
    intro p q alike
    rw [attempt_seq first second steady, attempt_seq first second steady]
    exact ih₁ (ih₂ steady) p q alike
  | alt _ _ ih₁ ih₂ =>
    intro p q alike
    rw [attempt_alt, attempt_alt, Option.isSome_or, Option.isSome_or, ih₁ steady p q alike,
      ih₂ steady p q alike]
  | join plain ih =>
    intro p q alike
    rw [attempt_join plain steady, attempt_join plain steady]
    exact ih steady p q alike
  | group _ ih =>
    intro p q alike
    have inner : Steady fun r => k { r with group := some (q.index, r.index) } :=
      fun r s alike => steady _ _ ⟨alike.1, alike.2⟩
    rw [attempt_group, attempt_group, alike.1]
    exact ih inner p q alike
  | run greedy set =>
    -- Both places are followed along the run, so the induction is on the first and for all second.
    intro p
    induction p using run_induction set with
    | stop p stop =>
      intro q alike
      have stop' : q.read? set = none := by
        rcases read?_alike alike set with ⟨-, second⟩ | ⟨r, s, first, -⟩
        · exact second
        · rw [stop] at first
          cases first
      cases greedy with
      | false =>
        rw [attempt_run_lazy, attempt_run_lazy, stop, stop']
        simpa using steady p q alike
      | true =>
        rw [attempt_run_eq, attempt_run_eq, stop, stop']
        simpa using steady p q alike
    | read p r read ih =>
      intro q alike
      obtain ⟨s, read', alike'⟩ : ∃ s, q.read? set = some s ∧ r.Alike s := by
        rcases read?_alike alike set with ⟨first, -⟩ | ⟨r', s, first, second, alike'⟩
        · rw [read] at first
          cases first
        · rw [read] at first
          cases first
          exact ⟨s, second, alike'⟩
      cases greedy with
      | false =>
        rw [attempt_run_lazy, attempt_run_lazy, read, read', Option.isSome_or, Option.isSome_or,
          steady p q alike, Option.bind_some, Option.bind_some, ih s alike']
      | true =>
        rw [attempt_run_eq, attempt_run_eq, read, read', Option.isSome_or, Option.isSome_or,
          steady p q alike, Option.bind_some, Option.bind_some, ih s alike']
  | option greedy _ ih =>
    intro p q alike
    rw [attempt_option, attempt_option]
    split <;> simp only [Option.isSome_or, ih steady p q alike, steady p q alike]

theorem steady_foldr (plain : ∀ x ∈ nodes, Plain x) (steady : Steady k) :
    Steady (nodes.foldr attempt k) := by
  induction nodes with
  | nil => exact steady
  | cons x nodes ih =>
    obtain ⟨first, others⟩ := List.forall_mem_cons.mp plain
    exact first.steady_attempt (ih others)

theorem attempt_foldl (first : Plain x) (plain : ∀ y ∈ nodes, Plain y) (steady : Steady k)
    (p : Place) : (nodes.foldl seq x).attempt k p = x.attempt (nodes.foldr attempt k) p := by
  induction nodes generalizing x with
  | nil => rfl
  | cons y nodes ih =>
    obtain ⟨second, others⟩ := List.forall_mem_cons.mp plain
    rw [List.foldl_cons, ih (.seq first second) others,
      attempt_seq first second (steady_foldr others steady)]
    rfl

theorem attempt_sequence (plain : ∀ x ∈ nodes, Plain x) (steady : Steady k) (p : Place) :
    (sequence nodes).attempt k p = nodes.foldr attempt k p := by
  cases nodes with
  | nil => exact attempt_empty k p
  | cons x nodes =>
    obtain ⟨first, others⟩ := List.forall_mem_cons.mp plain
    exact attempt_foldl first others steady p

theorem plain_literal {cs : List Char} (some : cs ≠ []) : Plain (literal cs) := by
  induction cs with
  | nil => exact absurd rfl some
  | cons c cs ih =>
    cases cs with
    | nil => exact .chars _
    | cons d cs => exact .seq (.chars _) (ih (List.cons_ne_nil d cs))

end Node

end ProjectContext.Pattern
