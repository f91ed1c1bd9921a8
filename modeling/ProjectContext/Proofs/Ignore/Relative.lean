import ProjectContext.Ignore.Rules
import ProjectContext.Proofs.Path.Joining

/-!
# Paths as a rule file sees them

A rule file is asked about a path by its bytes, from which the directory of the file is cut off.
What is left are the names below the directory (`relative_join`), unless the path begins with the
current directory twice: one `./` is dropped from the directory and two from the path.
-/

namespace ProjectContext

theorem Bytes.dropStart?_eq_some {start bytes rest : Bytes} :
    Bytes.dropStart? start bytes = some rest ↔ bytes = start ++ rest := by
  induction start generalizing bytes with
  | nil => simp [dropStart?]
  | cons a start ih =>
    cases bytes with
    | nil => simp [dropStart?]
    | cons b bytes =>
      rw [dropStart?]
      split
      · rename_i same
        simp [ih, same]
      · rename_i other
        simp [Ne.symm other]

theorem Bytes.dropStart?_eq_none {start bytes : Bytes} :
    Bytes.dropStart? start bytes = none ↔ ¬ start <+: bytes := by
  rw [Option.eq_none_iff_forall_ne_some]
  constructor
  · rintro none ⟨rest, rfl⟩
    exact none rest (Bytes.dropStart?_eq_some.mpr rfl)
  · intro other rest found
    exact other ⟨rest, (Bytes.dropStart?_eq_some.mp found).symm⟩

namespace Path

/-- The path begins with the current directory twice, as `././a` does. -/
def BeginsTwice (p : Path) : Prop := [dot, separator, dot, separator] <+: (p.join []).bytes

instance (p : Path) : Decidable p.BeginsTwice := inferInstanceAs (Decidable (_ <+: _))

/-- A joined path is the directory with a separator at its end, followed by the name. -/
theorem bytes_join (p : Path) (rest : Bytes) : (p.join rest).bytes = (p.join []).bytes ++ rest := by
  simp only [join]
  split <;> simp

/-- A directory is spelled with or without the separator at its end. -/
theorem bytes_join_nil (p : Path) :
    (p.join []).bytes = p.bytes ∧ (p.bytes = [] ∨ p.bytes.getLast? = some separator) ∨
      (p.join []).bytes = p.bytes ++ [separator] ∧ p.bytes ≠ [] := by
  rw [join]
  split
  · rename_i ended
    exact .inl ⟨by simp, ended⟩
  · rename_i open'
    exact .inr ⟨rfl, fun empty => open' (.inl empty)⟩

theorem getLast?_join_nil (p : Path) :
    (p.join []).bytes = [] ∨ (p.join []).bytes.getLast? = some separator := by
  rcases bytes_join_nil p with ⟨spelled, ended⟩ | ⟨spelled, -⟩
  · rwa [spelled]
  · exact .inr (by simp [spelled])

/-! ## Names in front of separators -/

variable {names : Location}

theorem not_dot_of_name {name : Bytes} (proper : Entry.IsName name) (tail : Bytes) :
    ¬ [dot, separator] <+: name ++ tail := by
  rintro ⟨rest, spelled⟩
  match name, proper with
  | [], proper => exact proper.ne_nil rfl
  | [a], proper =>
    obtain ⟨rfl, -⟩ : dot = a ∧ _ := by simpa using spelled
    have part := proper.1
    cases part
  | a :: b :: others, proper =>
    obtain ⟨-, rfl, -⟩ : dot = a ∧ separator = b ∧ _ := by simpa using spelled
    exact proper.2.1 (by simp)

theorem not_dot_relative (proper : ∀ name ∈ names, Entry.IsName name) :
    ¬ [dot, separator] <+: relative names := by
  match names with
  | [] => simp [relative]
  | [name] => simpa [relative] using not_dot_of_name (proper name (by simp)) []
  | name :: next :: names =>
    rw [relative_cons (List.cons_ne_nil next names)]
    exact not_dot_of_name (proper name (by simp)) _

theorem beginsTwice_join {p : Path} {name : Bytes} (proper : Entry.IsName name)
    (once : ¬ p.BeginsTwice) : ¬ (p.join name).BeginsTwice := by
  rw [BeginsTwice, join_join proper, bytes_join]
  rw [BeginsTwice] at once
  have named := not_dot_of_name proper [separator]
  rintro ⟨rest, spelled⟩
  have ended := getLast?_join_nil p
  generalize (p.join []).bytes = stem at once spelled ended
  -- A directory of less than four bytes leaves a `./` to the name, or does not end in a separator.
  match stem with
  | [] => exact named ⟨dot :: separator :: rest, spelled⟩
  | [a] =>
    obtain ⟨rfl, -⟩ : dot = a ∧ _ := by simpa using spelled
    simp [dot, separator] at ended
  | [a, b] =>
    obtain ⟨-, -, behind⟩ : dot = a ∧ separator = b ∧ dot :: separator :: rest = name ++ [separator] := by
      simpa using spelled
    exact named ⟨rest, behind⟩
  | [a, b, c] =>
    obtain ⟨-, -, rfl, -⟩ : dot = a ∧ separator = b ∧ dot = c ∧ _ := by simpa using spelled
    simp [dot, separator] at ended
  | a :: b :: c :: d :: stem =>
    obtain ⟨rfl, rfl, rfl, rfl, -⟩ :
        dot = a ∧ separator = b ∧ dot = c ∧ separator = d ∧ _ := by simpa using spelled
    exact once ⟨stem, rfl⟩

theorem beginsTwice_foldl_join {p : Path} (proper : ∀ name ∈ names, Entry.IsName name)
    (once : ¬ p.BeginsTwice) : ¬ (names.foldl join p).BeginsTwice := by
  induction names generalizing p with
  | nil => exact once
  | cons name names ih =>
    obtain ⟨first, others⟩ := List.forall_mem_cons.mp proper
    exact ih others (beginsTwice_join first once)

end Path

namespace Ignore.RuleSet

open ProjectContext.Path

variable {d : Path} {stem rest : Bytes}

theorem dropStart_append (start rest : Bytes) : dropStart start (start ++ rest) = rest := by
  rw [dropStart, Bytes.dropStart?_eq_some.mpr rfl]
  rfl

theorem dropStart_of_not {start bytes : Bytes} (other : ¬ start <+: bytes) :
    dropStart start bytes = bytes := by
  rw [dropStart, Bytes.dropStart?_eq_none.mpr other]
  rfl

theorem dropStart_slash (below : rest.head? ≠ some separator) : dropStart [slashByte] rest = rest := by
  refine dropStart_of_not ?_
  rintro ⟨tail, rfl⟩
  exact below rfl

theorem not_dot_append (ended : stem = [] ∨ stem.getLast? = some separator)
    (plain : ¬ currentDirectory <+: stem) (other : ¬ currentDirectory <+: rest) :
    ¬ currentDirectory <+: stem ++ rest := by
  rintro ⟨tail, spelled⟩
  match stem with
  | [] => exact other ⟨tail, spelled⟩
  | [a] =>
    obtain ⟨rfl, -⟩ : 0x2E = a ∧ _ := by simpa [currentDirectory] using spelled
    simp [separator] at ended
  | a :: b :: stem =>
    obtain ⟨rfl, rfl, -⟩ : 0x2E = a ∧ 0x2F = b ∧ _ := by simpa [currentDirectory] using spelled
    exact plain ⟨stem, rfl⟩

theorem head?_splitOn_dot {bytes : Bytes}
    (first : (Bytes.splitOn separator bytes).head? = some [dot]) :
    bytes = [dot] ∨ currentDirectory <+: bytes := by
  rw [Bytes.splitOn_eq] at first
  match bytes with
  | [] => cases first
  | [a] =>
    left
    rw [List.splitOn_cons_eq_if_modifyHead] at first
    split at first
    · cases first
    · simpa using first
  | a :: b :: rest =>
    right
    rw [List.splitOn_cons_eq_if_modifyHead] at first
    split at first
    · cases first
    · rw [List.splitOn_cons_eq_if_modifyHead] at first
      split at first
      · rename_i same
        obtain rfl : b = separator := by simpa using same
        obtain rfl : a = dot := by simpa using first
        exact ⟨rest, rfl⟩
      · cases cut : List.splitOn separator rest with
        | nil => simp [cut] at first
        | cons part parts => simp [cut] at first

theorem components_eq_current {base : Bytes} (current : Path.components ⟨base⟩ = [.current]) :
    base = [dot] ∨ currentDirectory <+: base := by
  have inner : .current ∉ (Bytes.splitOn separator base).filterMap componentOfPart :=
    fun member => (inner_of_mem_parts member).2 rfl
  rw [components] at current
  split at current
  · cases current
  · split at current
    · rename_i first
      exact head?_splitOn_dot first
    · simp [current] at inner

/-- Without its first `./`, a directory that does not begin with it twice does not begin with it. -/
theorem not_dot_withoutDot (once : ¬ d.BeginsTwice) :
    ¬ currentDirectory <+: withoutDot (d.join []).bytes := by
  rw [BeginsTwice] at once
  generalize (d.join []).bytes = stem at once
  by_cases dotted : currentDirectory <+: stem
  · obtain ⟨rest, rfl⟩ := dotted
    rw [withoutDot, dropStart_append]
    rintro ⟨tail, rfl⟩
    exact once ⟨tail, rfl⟩
  · rwa [withoutDot, dropStart_of_not dotted]

theorem getLast?_withoutDot (ended : stem = [] ∨ stem.getLast? = some separator) :
    withoutDot stem = [] ∨ (withoutDot stem).getLast? = some separator := by
  by_cases dotted : currentDirectory <+: stem
  · obtain ⟨stem, rfl⟩ := dotted
    rw [withoutDot, dropStart_append]
    by_cases empty : stem = []
    · exact .inl empty
    · rcases ended with none | ended
      · exact absurd (List.append_eq_nil_iff.mp none).2 empty
      · exact .inr (List.getLast?_append_of_ne_nil currentDirectory empty ▸ ended)
  · rwa [withoutDot, dropStart_of_not dotted]

/-- One or two times, dropping `./` from a joined path drops it from the directory. -/
theorem withoutDot_withoutDot (once : ¬ d.BeginsTwice) (other : ¬ currentDirectory <+: rest) :
    withoutDot (withoutDot (d.join rest).bytes) = withoutDot (d.join []).bytes ++ rest := by
  have again := not_dot_withoutDot once
  have ended := getLast?_join_nil d
  rw [bytes_join]
  generalize (d.join []).bytes = stem at again ended
  by_cases dotted : currentDirectory <+: stem
  · have ended := getLast?_withoutDot ended
    obtain ⟨stem, rfl⟩ := dotted
    simp only [withoutDot, dropStart_append, List.append_assoc] at again ended ⊢
    exact dropStart_of_not (not_dot_append ended again other)
  · have kept : withoutDot (stem ++ rest) = stem ++ rest :=
      dropStart_of_not (not_dot_append ended dotted other)
    rw [kept, kept, withoutDot, dropStart_of_not dotted]

/-- The directory of a rule file, without its first `./`, is what a joined path begins with: with or
without the separator, or else both stand for the current directory. -/
theorem base_cases (d : Path) :
    withoutDot (d.join []).bytes = withoutDot d.bytes ∨
      withoutDot (d.join []).bytes = withoutDot d.bytes ++ [separator] ∨
      withoutDot (d.join []).bytes = [] ∧ withoutDot d.bytes = [dot] := by
  rcases bytes_join_nil d with ⟨spelled, -⟩ | ⟨spelled, some⟩
  · rw [spelled]
    exact .inl rfl
  · right
    rw [spelled]
    generalize d.bytes = bytes at some
    match bytes, some with
    | [a], _ =>
      by_cases dotted : a = dot
      · exact .inr (by subst dotted; exact ⟨rfl, rfl⟩)
      · left
        have plain (tail : Bytes) : ¬ currentDirectory <+: a :: tail := by
          rintro ⟨rest, spelled⟩
          exact dotted (List.head_eq_of_cons_eq spelled).symm
        rw [withoutDot, withoutDot, dropStart_of_not (plain []), List.singleton_append,
          dropStart_of_not (plain _)]
    | a :: b :: bytes, _ =>
      left
      by_cases dotted : currentDirectory <+: a :: b :: bytes
      · obtain ⟨rest, spelled⟩ := dotted
        rw [← spelled, withoutDot, withoutDot, dropStart_append, List.append_assoc, dropStart_append]
      · have plain : ¬ currentDirectory <+: a :: b :: bytes ++ [separator] := by
          rintro ⟨rest, spelled⟩
          obtain ⟨rfl, rfl, -⟩ : 0x2E = a ∧ 0x2F = b ∧ _ := by
            simpa [currentDirectory] using spelled
          exact dotted ⟨bytes, rfl⟩
        rw [withoutDot, withoutDot, dropStart_of_not dotted, dropStart_of_not plain]

/-- The rules of a directory see the names below it. -/
theorem relative_join (once : ¬ d.BeginsTwice) (below : rest.head? ≠ some separator)
    (other : ¬ currentDirectory <+: rest) :
    relative (withoutDot d.bytes) (withoutDot (d.join rest).bytes) = rest := by
  have again := not_dot_withoutDot once
  have ended := getLast?_withoutDot (getLast?_join_nil d)
  rw [relative, withoutDot_withoutDot once other]
  rcases base_cases d with same | closed | ⟨empty, current⟩
  · rw [same] at again ended ⊢
    split
    · rw [Bytes.dropStart?_eq_some.mpr rfl]
      exact dropStart_slash below
    · -- Only a base without a separator is compared as a whole, and this one would end in it.
      rename_i whole
      have other : Path.components ⟨withoutDot d.bytes⟩ ≠ [.current] := by
        intro current
        rcases components_eq_current current with dotted | dotted
        · simp [dotted, dot, separator] at ended
        · exact again dotted
      have absent : slashByte ∉ withoutDot d.bytes ++ rest := fun member => whole ⟨other, member⟩
      rcases ended with empty | ended
      · rw [empty]
        rfl
      · exact absurd (List.mem_append_left rest (List.mem_of_getLast? ended)) absent
  · rw [closed] at again ⊢
    split
    · rw [List.append_assoc, Bytes.dropStart?_eq_some.mpr rfl]
      exact dropStart_append [slashByte] rest
    · rename_i whole
      refine absurd ⟨fun current => ?_, by simp [slashByte, separator]⟩ whole
      rcases components_eq_current current with dotted | ⟨tail, dotted⟩
      · exact again (by rw [dotted]; exact List.prefix_refl _)
      · exact again ⟨tail ++ [separator], by rw [← dotted, List.append_assoc]⟩
  · -- The directory is the current one: nothing is cut off, and the path is as it is below it.
    rw [empty, current, if_neg (fun both => both.1 rfl)]
    rfl

end Ignore.RuleSet

end ProjectContext
