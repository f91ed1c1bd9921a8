import Mathlib.Data.List.Basic
import ProjectContext.FileTree.Basic

/-!
# Joined paths

A relative path behind a root adds its parts to the components of the root (`components_join`). Names
that are joined one after the other give the same path as their relative path joined at once
(`foldl_join`).
-/

namespace ProjectContext

theorem Bytes.splitOn_eq (separator : UInt8) (bytes : Bytes) :
    Bytes.splitOn separator bytes = List.splitOn separator bytes := by
  induction bytes with
  | nil => rfl
  | cons b rest ih =>
    rw [List.splitOn_cons_eq_if_modifyHead, Bytes.splitOn, ih]
    cases parts : List.splitOn separator rest with
    | nil => exact absurd parts (List.splitOn_ne_nil separator rest)
    | cons part parts => by_cases same : b = separator <;> simp [same]

theorem Bytes.splitOn_append (separator : UInt8) (front rest : Bytes) :
    Bytes.splitOn separator (front ++ separator :: rest) =
      Bytes.splitOn separator front ++ Bytes.splitOn separator rest := by
  simp only [Bytes.splitOn_eq, List.splitOn_append_cons_self]

theorem Entry.IsName.ne_nil {name : Bytes} (proper : Entry.IsName name) : name ≠ [] := by
  intro empty
  have part := proper.1
  rw [empty] at part
  cases part

namespace Path

/-! ## Components -/

theorem componentOfPart_eq_none {part : Bytes} :
    componentOfPart part = none ↔ part = [] ∨ part = [dot] := by
  rw [componentOfPart]
  split
  · rename_i blank
    exact iff_of_true rfl blank
  · rename_i solid
    split <;> simpa using solid

theorem componentOfPart_eq_some {part : Bytes} {component : Component} :
    componentOfPart part = some component ↔ part ≠ [] ∧ part ≠ [dot] ∧
      (part = [dot, dot] ∧ component = .parent ∨
        part ≠ [dot, dot] ∧ component = .normal part) := by
  constructor
  · intro named
    rw [componentOfPart] at named
    split at named
    · cases named
    · rename_i solid
      obtain ⟨nonempty, other⟩ := not_or.mp solid
      refine ⟨nonempty, other, ?_⟩
      split at named
      · rename_i parent
        exact .inl ⟨parent, (Option.some.inj named).symm⟩
      · rename_i inner
        exact .inr ⟨inner, (Option.some.inj named).symm⟩
  · rintro ⟨nonempty, other, ⟨rfl, rfl⟩ | ⟨inner, rfl⟩⟩
    · rfl
    · rw [componentOfPart, if_neg (not_or.mpr ⟨nonempty, other⟩), if_neg inner]

/-- The parts between separators stand for names and for the parent directory. -/
theorem inner_of_mem_parts {bytes : Bytes} {component : Component}
    (member : component ∈ (Bytes.splitOn separator bytes).filterMap componentOfPart) :
    component ≠ .root ∧ component ≠ .current := by
  obtain ⟨part, -, named⟩ := List.mem_filterMap.mp member
  obtain ⟨-, -, ⟨-, rfl⟩ | ⟨-, rfl⟩⟩ := componentOfPart_eq_some.mp named <;> simp

theorem join_cases (p : Path) (rest : Bytes) :
    p.bytes = [] ∧ (p.join rest).bytes = rest ∨
      ∃ front, (p.bytes = front ∧ front ≠ [] ∨ p.bytes = front ++ [separator]) ∧
        (p.join rest).bytes = front ++ separator :: rest := by
  rw [join]
  by_cases empty : p.bytes = []
  · exact Or.inl ⟨empty, by simp [empty]⟩
  · right
    by_cases ends : p.bytes.getLast? = some separator
    · obtain ⟨front, spelled⟩ := List.getLast?_eq_some_iff.mp ends
      exact ⟨front, Or.inr spelled, by rw [if_pos (Or.inr ends), spelled]; simp⟩
    · exact ⟨p.bytes, Or.inl ⟨rfl, empty⟩, by rw [if_neg (not_or.mpr ⟨empty, ends⟩)]⟩

theorem le_length_join (p : Path) (rest : Bytes) :
    p.bytes.length + rest.length ≤ (p.join rest).bytes.length := by
  rw [join]
  split <;> simp

theorem length_join_le (p : Path) (rest : Bytes) :
    (p.join rest).bytes.length ≤ p.bytes.length + rest.length + 1 := by
  rw [join]
  split <;> simp [Nat.add_assoc]

theorem isAbsolute_join {p : Path} {rest : Bytes} (below : rest.head? ≠ some separator) :
    (p.join rest).isAbsolute = p.isAbsolute := by
  rcases join_cases p rest with ⟨empty, spelled⟩ | ⟨front, ends, spelled⟩
  · simp [isAbsolute, spelled, empty, below]
  · cases front with
    | nil =>
      rcases ends with ⟨_, nonempty⟩ | ended
      · exact absurd rfl nonempty
      · simp [isAbsolute, spelled, ended]
    | cons b front => rcases ends with ⟨whole, _⟩ | ended <;> simp [isAbsolute, *]

/-- A relative path adds its parts to the components of what it is joined to. -/
theorem components_join {p : Path} {rest : Bytes} (below : rest.head? ≠ some separator)
    (named : (Bytes.splitOn separator rest).head? ≠ some [dot]) :
    (p.join rest).components =
      p.components ++ (Bytes.splitOn separator rest).filterMap componentOfPart := by
  have absolute := isAbsolute_join (p := p) below
  rcases join_cases p rest with ⟨empty, spelled⟩ | ⟨front, ends, spelled⟩
  · have relative : p.isAbsolute = false := by simp [isAbsolute, empty]
    have none : p.components = [] := by
      simp [components, relative, empty, Bytes.splitOn, componentOfPart]
    rw [none]
    simp [components, absolute, relative, spelled, named]
  · have parts : Bytes.splitOn separator p.bytes = Bytes.splitOn separator front ∨
        Bytes.splitOn separator p.bytes = Bytes.splitOn separator front ++ [[]] := by
      rcases ends with ⟨whole, _⟩ | ended
      · exact Or.inl (by rw [whole])
      · exact Or.inr (by rw [ended, Bytes.splitOn_append]; rfl)
    have inner : (Bytes.splitOn separator p.bytes).filterMap componentOfPart =
        (Bytes.splitOn separator front).filterMap componentOfPart := by
      rcases parts with parts | parts <;> simp [parts, componentOfPart]
    have first : (Bytes.splitOn separator p.bytes).head? =
        (Bytes.splitOn separator front ++ Bytes.splitOn separator rest).head? := by
      cases cut : Bytes.splitOn separator front with
      | nil => exact absurd cut (Bytes.splitOn_eq separator front ▸ List.splitOn_ne_nil _ front)
      | cons part others => rcases parts with parts | parts <;> simp [parts, cut]
    simp only [components, spelled, Bytes.splitOn_append, absolute, ← first, List.filterMap_append,
      inner]
    split
    · rfl
    · split <;> rfl

/-! ## Names below a directory -/

/-- The relative path of the names that lead to an entry. -/
def relative (names : Location) : Bytes := [separator].intercalate names

variable {names : Location}

theorem splitOn_relative (proper : ∀ name ∈ names, Entry.IsName name) (some : names ≠ []) :
    Bytes.splitOn separator (relative names) = names := by
  rw [Bytes.splitOn_eq]
  exact List.splitOn_intercalate separator (fun name member => (proper name member).2.1) some

theorem filterMap_names (proper : ∀ name ∈ names, Entry.IsName name) :
    names.filterMap componentOfPart = names.map .normal := by
  induction names with
  | nil => rfl
  | cons name names ih =>
    obtain ⟨first, others⟩ := List.forall_mem_cons.mp proper
    rw [List.filterMap_cons_some first.1, ih others, List.map_cons]

theorem head?_relative (proper : ∀ name ∈ names, Entry.IsName name) :
    (relative names).head? ≠ some separator := by
  cases names with
  | nil => simp [relative]
  | cons name names =>
    have proper := proper name List.mem_cons_self
    cases spelled : name with
    | nil => exact absurd spelled (proper.ne_nil)
    | cons b rest =>
      have other : separator ≠ b := fun same => proper.2.1 (by simp [spelled, same])
      cases names <;> simp [relative, List.intercalate_cons_cons, other.symm]

theorem components_join_relative {p : Path} (proper : ∀ name ∈ names, Entry.IsName name)
    (some : names ≠ []) :
    (p.join (relative names)).components = p.components ++ names.map .normal := by
  rw [components_join (head?_relative proper), splitOn_relative proper some,
    filterMap_names proper]
  rw [splitOn_relative proper some]
  intro current
  have first := (proper _ (List.mem_of_head? current)).1
  cases first

theorem join_join {p : Path} {name rest : Bytes} (proper : Entry.IsName name) :
    (p.join name).join rest = p.join (name ++ separator :: rest) := by
  obtain ⟨front, spelled⟩ : ∃ front, (p.join name).bytes = front ++ name := by
    rw [join]
    split
    · exact ⟨p.bytes, rfl⟩
    · exact ⟨p.bytes ++ [separator], by simp⟩
  have some : (p.join name).bytes ≠ [] := by simp [spelled, proper.ne_nil]
  have last : (p.join name).bytes.getLast? ≠ .some separator := by
    rw [spelled, List.getLast?_append_of_ne_nil _ (proper.ne_nil)]
    exact fun ends => proper.2.1 (List.mem_of_getLast? ends)
  rw [join, if_neg (not_or.mpr ⟨some, last⟩), join]
  by_cases whole : p.bytes = [] ∨ p.bytes.getLast? = .some separator <;> simp [join, whole]

theorem relative_cons {name : Bytes} (some : names ≠ []) :
    relative (name :: names) = name ++ separator :: relative names := by
  simp [relative, List.intercalate_cons_of_ne_nil some]

/-- Names joined one after the other give what their relative path gives. -/
theorem foldl_join {p : Path} (proper : ∀ name ∈ names, Entry.IsName name) (some : names ≠ []) :
    names.foldl join p = p.join (relative names) := by
  induction names generalizing p with
  | nil => exact absurd rfl some
  | cons name names ih =>
    obtain ⟨first, others⟩ := List.forall_mem_cons.mp proper
    rw [List.foldl_cons]
    by_cases last : names = []
    · simp [last, relative]
    · rw [ih others last, join_join first, relative_cons last]

theorem components_foldl_join {p : Path} (proper : ∀ name ∈ names, Entry.IsName name) :
    (names.foldl join p).components = p.components ++ names.map .normal := by
  by_cases some : names = []
  · simp [some]
  · rw [foldl_join proper some, components_join_relative proper some]

theorem names_eq_of_key_eq {p : Path} {others : Location}
    (proper : ∀ name ∈ names, Entry.IsName name) (proper' : ∀ name ∈ others, Entry.IsName name)
    (equal : (names.foldl join p).key = (others.foldl join p).key) : names = others := by
  have same := same_iff_key_eq.mpr equal
  rw [Same, components_foldl_join proper, components_foldl_join proper'] at same
  exact (List.map_inj_right fun _ _ => Component.normal.inj).mp (List.append_cancel_left same)

end Path

end ProjectContext
