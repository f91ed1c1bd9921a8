import ProjectContext.Text.Unicode.Classes

/-!
# Classes that have nothing in common

The space characters are few, so that they can be looked up one by one in the tables of another
class.
-/

namespace ProjectContext.Unicode

/-- The numbers that some ranges hold. -/
def numbersOf (ranges : List (Nat × Nat)) : List Nat :=
  ranges.flatMap fun range => List.range' range.1 (range.2 + 1 - range.1)

theorem mem_numbersOf {ranges : List (Nat × Nat)} {n : Nat} (inside : inRanges ranges n) :
    n ∈ numbersOf ranges := by
  induction ranges with
  | nil => cases inside
  | cons range ranges ih =>
    obtain ⟨low, high⟩ := range
    simp only [inRanges, Bool.and_eq_true, Bool.or_eq_true, decide_eq_true_eq] at inside
    rw [numbersOf, List.flatMap_cons, List.mem_append]
    obtain ⟨least, most | others⟩ := inside
    · exact .inl (List.mem_range'_1.mpr ⟨least, by omega⟩)
    · exact .inr (ih others)

theorem not_isWord_of_isSpace {c : Char} (space : isSpace c) : isWord c = false := by
  have apart : ∀ n ∈ numbersOf [(0x9, 0xD), (0x20, 0x20), (0x85, 0x85), (0xA0, 0xA0),
      (0x1680, 0x1680), (0x2000, 0x200A), (0x2028, 0x2029), (0x202F, 0x202F), (0x205F, 0x205F),
      (0x3000, 0x3000)],
      (inRanges alphabeticRanges n || inRanges markRanges n || inRanges digitRanges n ||
        inRanges [(0x5F, 0x5F), (0x203F, 0x2040), (0x2054, 0x2054), (0xFE33, 0xFE34),
          (0xFE4D, 0xFE4F), (0xFF3F, 0xFF3F)] n || (n == 0x200C || n == 0x200D)) = false := by
    decide +kernel
  exact apart c.toNat (mem_numbersOf space)

theorem not_isSpace_of_isWord {c : Char} (word : isWord c) : isSpace c = false := by
  cases space : isSpace c with
  | false => rfl
  | true =>
    rw [not_isWord_of_isSpace space] at word
    cases word

end ProjectContext.Unicode
