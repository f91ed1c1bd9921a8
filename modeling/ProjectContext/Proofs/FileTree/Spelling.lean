import ProjectContext.Proofs.FileTree.Reaching
import ProjectContext.Proofs.Path.Joining

/-!
# Where spellings of a path lead

A part of a path that stands for no component can keep a lookup from succeeding and does nothing
else, so all spellings of a path that lead somewhere lead to the same entry (`resolve_eq_of_same`).
Names behind a path that leads to a directory lead on from there (`resolve_join`), unless the joined
path has grown too long.
-/

namespace ProjectContext

namespace Entry

variable {children : List (Bytes × Entry)}

theorem childOf?_of_mem {name : Bytes} {e : Entry} (valid : (directory children).WellFormed)
    (member : (name, e) ∈ children) : childOf? name children = some e := by
  cases first : children.find? fun child => child.1 == name with
  | none =>
    have other := List.find?_eq_none.mp first (name, e) member
    simp at other
  | some child =>
    have named : child.1 = name := by simpa using List.find?_some first
    have here : (name, child.2) ∈ children := named ▸ List.mem_of_find?_eq_some first
    rw [childOf?, first, child_unique valid member here]
    rfl

end Entry

namespace Path

theorem isAbsolute_eq (p : Path) : p.isAbsolute = decide (.root ∈ p.components) := by
  have inner : .root ∉ (Bytes.splitOn separator p.bytes).filterMap componentOfPart :=
    fun member => (inner_of_mem_parts member).1 rfl
  cases absolute : p.isAbsolute with
  | true => simp [components, absolute]
  | false =>
    simp only [components, absolute, Bool.false_eq_true, if_false]
    split <;> simp [inner]

theorem parts_eq (p : Path) : (Bytes.splitOn separator p.bytes).filterMap componentOfPart =
    p.components.filter fun component => decide (component ≠ .root ∧ component ≠ .current) := by
  have inner : ((Bytes.splitOn separator p.bytes).filterMap componentOfPart).filter
      (fun component => decide (component ≠ .root ∧ component ≠ .current)) =
      (Bytes.splitOn separator p.bytes).filterMap componentOfPart :=
    List.filter_eq_self.mpr fun component member => decide_eq_true (inner_of_mem_parts member)
  rw [components]
  split
  · rw [List.filter_cons_of_neg (by simp), inner]
  · split
    · rw [List.filter_cons_of_neg (by simp), inner]
    · exact inner.symm

theorem splitOn_separators (p : Path) (n : Nat) :
    Bytes.splitOn separator (p.bytes ++ List.replicate n separator) =
      Bytes.splitOn separator p.bytes ++ List.replicate n [] := by
  have alone (n : Nat) :
      Bytes.splitOn separator (List.replicate n separator) = List.replicate (n + 1) [] := by
    induction n with
    | zero => rfl
    | succ n ih =>
      rw [List.replicate_succ, ← List.nil_append (separator :: _), Bytes.splitOn_append, ih]
      rfl
  cases n with
  | zero => simp
  | succ n => rw [List.replicate_succ, Bytes.splitOn_append, alone]

theorem isAbsolute_separators {p : Path} (some : p.bytes ≠ []) (n : Nat) :
    isAbsolute ⟨p.bytes ++ List.replicate n separator⟩ = p.isAbsolute := by
  rw [isAbsolute, isAbsolute, List.head?_append_of_ne_nil _ some]

/-- Separators behind a path make another spelling of it. -/
theorem same_separators {p : Path} (some : p.bytes ≠ []) (n : Nat) :
    Path.Same ⟨p.bytes ++ List.replicate n separator⟩ p := by
  have blank : (List.replicate n ([] : Bytes)).filterMap componentOfPart = [] := by
    refine List.filterMap_eq_nil_iff.mpr fun part member => ?_
    rw [(List.mem_replicate.mp member).2]
    rfl
  have first : Bytes.splitOn separator p.bytes ≠ [] :=
    Bytes.splitOn_eq separator p.bytes ▸ List.splitOn_ne_nil separator p.bytes
  rw [Same, components, components, isAbsolute_separators some, splitOn_separators,
    List.filterMap_append, blank, List.append_nil, List.head?_append_of_ne_nil _ first]

end Path

namespace FileSystem

open Entry

variable {fs : FileSystem} {parts rest : List Bytes} {found : Location × Entry}

/-! ## One part -/

/-- What a part does to a lookup does not depend on the parts behind it. -/
theorem advance_cons (fs : FileSystem) (location : Location) (e : Entry) (part : Bytes) :
    (∃ next child, ∀ rest, fs.advance true location e (part :: rest) =
      fs.advance true next child rest) ∨
    (∃ target, ∀ rest, fs.advance true location e (part :: rest) = .link location target rest) ∨
    ∃ error, ∀ rest, fs.advance true location e (part :: rest) = .failed error := by
  cases e with
  | file content => exact .inr (.inr ⟨.notDirectory, fun rest => rfl⟩)
  | link target => exact .inr (.inr ⟨.notDirectory, fun rest => rfl⟩)
  | directory children =>
    simp only [advance]
    split
    · exact .inl ⟨_, _, fun rest => rfl⟩
    · exact .inl ⟨_, _, fun rest => rfl⟩
    · by_cases long : part.length > maxName
      · simp only [if_pos long]
        exact .inr (.inr ⟨_, fun rest => rfl⟩)
      · simp only [if_neg long]
        split
        · exact .inr (.inr ⟨_, fun rest => rfl⟩)
        · rename_i target _
          exact .inr (.inl ⟨target, fun rest => by simp⟩)
        · exact .inl ⟨_, _, fun rest => rfl⟩

theorem advance_cons_blank (fs : FileSystem) (location : Location) (e : Entry) {part : Bytes}
    (blank : Path.componentOfPart part = none) :
    (∀ rest, fs.advance true location e (part :: rest) = fs.advance true location e rest) ∨
    ∃ error, ∀ rest, fs.advance true location e (part :: rest) = .failed error := by
  cases e with
  | file content => exact .inr ⟨.notDirectory, fun rest => rfl⟩
  | link target => exact .inr ⟨.notDirectory, fun rest => rfl⟩
  | directory children => exact .inl fun rest => by rw [advance, blank]

/-! ## Parts that can be left out -/

/-- The second list is the first one without some of the parts that stand for no component. -/
inductive Trimmed : List Bytes → List Bytes → Prop
  | nil : Trimmed [] []
  | keep {parts rest : List Bytes} (part : Bytes) :
      Trimmed parts rest → Trimmed (part :: parts) (part :: rest)
  | drop {part : Bytes} {parts rest : List Bytes} :
      Path.componentOfPart part = none → Trimmed parts rest → Trimmed (part :: parts) rest

theorem Trimmed.refl (parts : List Bytes) : Trimmed parts parts := by
  induction parts with
  | nil => exact .nil
  | cons part parts ih => exact .keep part ih

theorem Trimmed.append (front : List Bytes) (trimmed : Trimmed parts rest) :
    Trimmed (front ++ parts) (front ++ rest) := by
  induction front with
  | nil => exact trimmed
  | cons part front ih => exact .keep part ih

/-- What leaving parts out makes of an arrival: nothing, unless the lookup has failed. -/
def Arrival.Kept : Arrival → Arrival → Prop
  | .found location e, after => after = .found location e
  | .link start target more, after =>
    ∃ less, Trimmed more less ∧ after = .link start target less
  | .failed _, _ => True

theorem Trimmed.advance (fs : FileSystem) (trimmed : Trimmed parts rest) (location : Location)
    (e : Entry) :
    (fs.advance true location e parts).Kept (fs.advance true location e rest) := by
  induction trimmed generalizing location e with
  | nil => exact Eq.refl (Arrival.found location e)
  | drop blank _ ih =>
    rcases advance_cons_blank fs location e blank with same | ⟨error, failed⟩
    · rw [same]
      exact ih location e
    · rw [failed]
      trivial
  | keep part trimmed ih =>
    rcases advance_cons fs location e part with ⟨next, child, same⟩ | ⟨target, arrived⟩ |
      ⟨error, failed⟩
    · rw [same, same]
      exact ih next child
    · rw [arrived, arrived]
      exact ⟨_, trimmed, rfl⟩
    · rw [failed]
      trivial

theorem Trimmed.walk (trimmed : Trimmed parts rest) {links : Nat} {start : Location}
    (leads : fs.walk true links start parts = .ok found) :
    fs.walk true links start rest = .ok found := by
  induction links generalizing start parts rest with
  | zero =>
    have kept := trimmed.advance fs start ((fs.root.at? start).getD fs.root)
    rw [FileSystem.walk] at leads ⊢
    split at leads
    · rename_i arrived
      rw [arrived] at kept
      rw [show _ = _ from kept]
      exact leads
    · cases leads
    · cases leads
  | succ links ih =>
    have kept := trimmed.advance fs start ((fs.root.at? start).getD fs.root)
    rw [FileSystem.walk] at leads ⊢
    split at leads
    · rename_i arrived
      rw [arrived] at kept
      rw [show _ = _ from kept]
      exact leads
    · cases leads
    · rename_i arrived
      rw [arrived] at kept
      obtain ⟨less, shorter, arrived⟩ := kept
      rw [arrived]
      exact ih (shorter.append _) leads

/-! ## Parts behind a path -/

theorem advance_append (fs : FileSystem) (location : Location) (e : Entry)
    (parts rest : List Bytes) :
    fs.advance true location e (parts ++ rest) =
      match fs.advance true location e parts with
      | .found next child => fs.advance true next child rest
      | .link start target more => .link start target (more ++ rest)
      | .failed error => .failed error := by
  induction parts generalizing location e with
  | nil => rfl
  | cons part parts ih =>
    rw [List.cons_append]
    rcases advance_cons fs location e part with ⟨next, child, same⟩ | ⟨target, arrived⟩ |
      ⟨error, failed⟩
    · rw [same, same, ih]
    · rw [arrived, arrived]
    · rw [failed, failed]

theorem walk_append {links : Nat} {start next : Location} {child : Entry}
    (leads : fs.walk true links start parts = .ok (next, child)) {location : Location} {e : Entry}
    (further : fs.advance true next child rest = .found location e) :
    fs.walk true links start (parts ++ rest) = .ok (location, e) := by
  induction links generalizing start parts with
  | zero =>
    rw [walk] at leads ⊢
    rw [advance_append]
    split at leads
    · rename_i arrived
      cases leads
      simp [arrived, further]
    · cases leads
    · cases leads
  | succ links ih =>
    rw [walk] at leads ⊢
    rw [advance_append]
    split at leads
    · rename_i arrived
      cases leads
      simp [arrived, further]
    · cases leads
    · rename_i arrived
      simp only [arrived, ← List.append_assoc]
      exact ih leads

/-- Names that are reached through directories lead to what they reach. -/
theorem advance_of_reaches {children : List (Bytes × Entry)} {names : Location} {e : Entry}
    (reached : Reaches children names e) (valid : (directory children).WellFormed)
    (real : ∀ target, e ≠ .link target) (location : Location) :
    fs.advance true location (.directory children) names = .found (location ++ names) e := by
  induction reached generalizing location with
  | @child children name e member =>
    obtain ⟨part, -, -, short⟩ := (wellFormed_child valid member).1
    rw [advance, part]
    simp only [if_neg (Nat.not_lt.mpr short), childOf?_of_mem valid member]
    cases e with
    | link target => exact absurd rfl (real target)
    | file content => rfl
    | directory inner => rfl
  | @inside children inner name names e member deeper ih =>
    obtain ⟨⟨part, -, -, short⟩, inside⟩ := wellFormed_child valid member
    rw [advance, part]
    simp only [if_neg (Nat.not_lt.mpr short), childOf?_of_mem valid member]
    rw [ih inside real, List.append_assoc, List.singleton_append]

/-! ## Paths -/

theorem resolve_eq_ok {p : Path} : fs.resolve p = .ok found ↔
    0 ∉ p.bytes ∧ p.bytes ≠ [] ∧ p.bytes.length ≤ maxPath ∧
      fs.walk true maxLinks (if p.isAbsolute then [] else fs.workingDirectory)
        (Bytes.splitOn Path.separator p.bytes) = .ok found := by
  rw [resolve, lookup]
  by_cases nul : 0 ∈ p.bytes
  · simp [nul]
  · by_cases empty : p.bytes = []
    · simp [empty]
    · by_cases long : p.bytes.length > maxPath
      · simp [nul, empty, long, Nat.not_le.mpr long]
      · simp [nul, empty, long, Nat.not_lt.mp long]

theorem zero_not_mem_relative {names : Location} (proper : ∀ name ∈ names, IsName name) :
    0 ∉ Path.relative names := by
  induction names with
  | nil => simp [Path.relative]
  | cons name names ih =>
    obtain ⟨⟨-, -, clean, -⟩, others⟩ := List.forall_mem_cons.mp proper
    by_cases last : names = []
    · simpa [last, Path.relative] using clean
    · rw [Path.relative_cons last]
      simp [clean, ih others, Path.separator]

variable {root : Path} {location : Location} {children : List (Bytes × Entry)} {names : Location}
  {e : Entry}

theorem zero_not_mem_join (leads : fs.resolve root = .ok (location, .directory children))
    (reached : Reaches children names e) : 0 ∉ (root.join (Path.relative names)).bytes := by
  have clean := (resolve_eq_ok.mp leads).1
  have below := zero_not_mem_relative (reached.proper (wellFormed_of_resolve leads))
  rw [Path.join]
  split <;> simp [clean, below, Path.separator]

theorem resolve_join (leads : fs.resolve root = .ok (location, .directory children))
    (reached : Reaches children names e) (real : ∀ target, e ≠ .link target)
    (short : (root.join (Path.relative names)).bytes.length ≤ maxPath) :
    fs.resolve (root.join (Path.relative names)) = .ok (location ++ names, e) := by
  have valid := wellFormed_of_resolve leads
  have proper := reached.proper valid
  obtain ⟨-, nonempty, -, walked⟩ := resolve_eq_ok.mp leads
  rcases Path.join_cases root (Path.relative names) with ⟨empty, -⟩ | ⟨front, ends, spelled⟩
  · exact absurd empty nonempty
  -- A separator at the end of the root makes one more part, which is empty.
  have shorter : Trimmed (Bytes.splitOn Path.separator root.bytes)
      (Bytes.splitOn Path.separator front) := by
    rcases ends with ⟨whole, -⟩ | ended
    · rw [whole]
      exact .refl _
    · rw [ended, Bytes.splitOn_append]
      have last : Trimmed [[]] [] := .drop rfl .nil
      simpa [Bytes.splitOn] using last.append (Bytes.splitOn Path.separator front)
  refine resolve_eq_ok.mpr ⟨zero_not_mem_join leads reached, ?_, short, ?_⟩
  · simp [spelled]
  · rw [Path.isAbsolute_join (Path.head?_relative proper), spelled, Bytes.splitOn_append,
      Path.splitOn_relative proper reached.ne_nil]
    exact walk_append (shorter.walk walked) (advance_of_reaches reached valid real location)

theorem resolve_join_of_long (leads : fs.resolve root = .ok (location, .directory children))
    (reached : Reaches children names e)
    (long : maxPath < (root.join (Path.relative names)).bytes.length) :
    fs.resolve (root.join (Path.relative names)) = .error .nameTooLong := by
  have clean := zero_not_mem_join leads reached
  have nonempty : (root.join (Path.relative names)).bytes ≠ [] := by
    intro empty
    simp [empty] at long
  rw [resolve, lookup, if_neg clean, if_neg nonempty, if_pos long]

theorem resolve_separators {p : Path} (leads : fs.resolve p = .ok (location, .directory children))
    {n : Nat} (short : (p.bytes ++ List.replicate n Path.separator).length ≤ maxPath) :
    fs.resolve ⟨p.bytes ++ List.replicate n Path.separator⟩ =
      .ok (location, .directory children) := by
  obtain ⟨clean, nonempty, -, walked⟩ := resolve_eq_ok.mp leads
  have further : fs.advance true location (.directory children) (List.replicate n []) =
      .found location (.directory children) := by
    clear short
    induction n with
    | zero => rfl
    | succ n ih => exact ih
  refine resolve_eq_ok.mpr ⟨?_, by simp [nonempty], short, ?_⟩
  · simp [clean, Path.separator]
  · rw [Path.isAbsolute_separators nonempty, Path.splitOn_separators]
    exact walk_append walked further

/-! ## Spellings of one path -/

/-- The parts of a path that stand for components. -/
def namedParts (parts : List Bytes) : List Bytes :=
  parts.filter fun part => (Path.componentOfPart part).isSome

theorem trimmed_namedParts (parts : List Bytes) : Trimmed parts (namedParts parts) := by
  induction parts with
  | nil => exact .nil
  | cons part parts ih =>
    cases named : Path.componentOfPart part with
    | none =>
      rw [namedParts, List.filter_cons_of_neg (by simp [named])]
      exact .drop named ih
    | some component =>
      rw [namedParts, List.filter_cons_of_pos (by simp [named])]
      exact .keep part ih

/-- The part that a component is written as, for those that a part stands for. -/
def partOf : Component → Bytes
  | .root | .current => []
  | .parent => [Path.dot, Path.dot]
  | .normal name => name

theorem partOf_componentOfPart {part : Bytes} {component : Component}
    (named : Path.componentOfPart part = some component) : partOf component = part := by
  obtain ⟨-, -, ⟨rfl, rfl⟩ | ⟨-, rfl⟩⟩ := Path.componentOfPart_eq_some.mp named <;> rfl

theorem namedParts_eq (parts : List Bytes) :
    namedParts parts = (parts.filterMap Path.componentOfPart).map partOf := by
  induction parts with
  | nil => rfl
  | cons part parts ih =>
    cases named : Path.componentOfPart part with
    | none =>
      rw [namedParts, List.filter_cons_of_neg (by simp [named]), List.filterMap_cons_none named]
      exact ih
    | some component =>
      rw [namedParts, List.filter_cons_of_pos (by simp [named]), List.filterMap_cons_some named,
        List.map_cons, partOf_componentOfPart named]
      exact congrArg (part :: ·) ih

/-- A lookup of components alone. -/
def follow (fs : FileSystem) (components : List Component) : Except AccessError (Location × Entry) :=
  fs.walk true maxLinks (if .root ∈ components then [] else fs.workingDirectory)
    ((components.filter fun component =>
      decide (component ≠ .root ∧ component ≠ .current)).map partOf)

theorem follow_components {p : Path} (leads : fs.resolve p = .ok found) :
    fs.follow p.components = .ok found := by
  obtain ⟨-, -, -, walked⟩ := resolve_eq_ok.mp leads
  have shorter := (trimmed_namedParts _).walk walked
  rw [namedParts_eq, Path.parts_eq, Path.isAbsolute_eq] at shorter
  simpa [follow] using shorter

/-- All spellings of a path that lead somewhere lead to the same entry. -/
theorem resolve_eq_of_same {p q : Path} (same : p.Same q) {other : Location × Entry}
    (leads : fs.resolve p = .ok found) (leads' : fs.resolve q = .ok other) : found = other := by
  have components : p.components = q.components := same
  have first := follow_components leads
  rw [components, follow_components leads', Except.ok.injEq] at first
  exact first.symm

end FileSystem

end ProjectContext
