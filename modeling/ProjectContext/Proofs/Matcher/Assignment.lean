import Mathlib.Data.List.Basic
import ProjectContext.Extractor

/-!
# Matchers assigned in turn

Of the matchers that are assigned to a kind the last one holds (`assigned_withMatchers`), and an
extractor finds symbols and is listed by what holds in the end. So the order matters only among
assignments to the same kind, and an assignment to one kind leaves the others alone
(`last_assignment_decides`).
-/

namespace ProjectContext

theorem FileKind.mem_all (kind : FileKind) : kind ∈ FileKind.all := by
  cases kind <;> decide

namespace Extractor

variable {assignments front back : List (FileKind × Matcher)} {kind : FileKind}

def withMatchers (x : Extractor) (assignments : List (FileKind × Matcher)) : Extractor :=
  assignments.foldl (fun x a => x.withMatcher a.1 a.2) x

/-- What is found by a matcher, if there is one. -/
def found (m : Option Matcher) (text : String) : Symbols := (m.map (·.symbols text)).getD {}

/-! ## What holds in the end -/

def lastAssigned? (assignments : List (FileKind × Matcher)) (kind : FileKind) : Option Matcher :=
  (assignments.reverse.find? fun a => decide (a.1 = kind)).map (·.2)

theorem lastAssigned?_cons (a : FileKind × Matcher) (rest : List (FileKind × Matcher))
    (kind : FileKind) : lastAssigned? (a :: rest) kind =
      (lastAssigned? rest kind).or (if kind = a.1 then some a.2 else none) := by
  simp only [lastAssigned?, List.reverse_cons, List.find?_append, Option.map_or]
  congr 1
  by_cases same : a.1 = kind
  · simp [same]
  · simp [same, Ne.symm same]

theorem lastAssigned?_append (front back : List (FileKind × Matcher)) (kind : FileKind) :
    lastAssigned? (front ++ back) kind =
      (lastAssigned? back kind).or (lastAssigned? front kind) := by
  simp [lastAssigned?, List.find?_append, Option.map_or]

theorem lastAssigned?_swap {a b : FileKind × Matcher} (different : a.1 ≠ b.1) (kind : FileKind) :
    lastAssigned? (front ++ b :: a :: back) kind =
      lastAssigned? (front ++ a :: b :: back) kind := by
  simp only [lastAssigned?_append, lastAssigned?_cons]
  by_cases first : kind = a.1
  · simp [first, different]
  · simp [first]

theorem assigned_withMatchers (x : Extractor) (assignments : List (FileKind × Matcher))
    (kind : FileKind) :
    (x.withMatchers assignments).assigned kind =
      (lastAssigned? assignments kind).or (x.assigned kind) := by
  induction assignments generalizing x with
  | nil => rfl
  | cons a rest ih =>
    have next : x.withMatchers (a :: rest) = (x.withMatcher a.1 a.2).withMatchers rest := rfl
    rw [next, ih, lastAssigned?_cons, Option.or_assoc, withMatcher]
    by_cases same : kind = a.1 <;> simp [same]

theorem fallback_withMatchers (x : Extractor) (assignments : List (FileKind × Matcher)) :
    (x.withMatchers assignments).fallback = x.fallback := by
  induction assignments generalizing x with
  | nil => rfl
  | cons a rest ih => exact ih (x.withMatcher a.1 a.2)

theorem withMatchers_congr (x : Extractor) {others : List (FileKind × Matcher)}
    (same : ∀ kind, lastAssigned? others kind = lastAssigned? assignments kind) :
    x.withMatchers others = x.withMatchers assignments := by
  have fallback : (x.withMatchers others).fallback = (x.withMatchers assignments).fallback := by
    rw [fallback_withMatchers, fallback_withMatchers]
  have assigned : (x.withMatchers others).assigned = (x.withMatchers assignments).assigned := by
    funext kind
    rw [assigned_withMatchers, assigned_withMatchers, same]
  cases ended : x.withMatchers others
  cases ended' : x.withMatchers assignments
  simp_all

/-! ## Symbols -/

theorem symbolsOfKind_eq (x : Extractor) (kind : Option FileKind) (text : String) :
    x.symbolsOfKind kind text = found ((kind.bind x.assigned).or x.fallback) text := by
  rw [symbolsOfKind, matcherFor?]
  cases (kind.bind x.assigned).or x.fallback <;> rfl

theorem symbolsOfKind_withMatcher_of_ne (x : Extractor) (m : Matcher) {other : Option FileKind}
    (different : other ≠ some kind) (text : String) :
    (x.withMatcher kind m).symbolsOfKind other text = x.symbolsOfKind other text := by
  rw [symbolsOfKind_eq, symbolsOfKind_eq]
  cases other with
  | none => rfl
  | some other =>
    have apart : other ≠ kind := fun same => different (congrArg some same)
    simp [withMatcher, apart]

/-! ## Listings -/

def entryText (e : FileKind × Matcher) : String :=
  "(" ++ e.1.label ++ ", " ++ quote e.2.name ++ ")"

def fallbackText : Option Matcher → String
  | some m => "Some(" ++ quote m.name ++ ")"
  | none => "None"

def listingOf (fallback : Option Matcher) (entries : List (FileKind × Matcher)) : String :=
  "SymbolExtractor \x7B fallback: " ++ fallbackText fallback ++ ", by_kind: [" ++
    ", ".intercalate (entries.map entryText) ++ "] \x7D"

def entries (x : Extractor) : List (FileKind × Matcher) :=
  FileKind.all.filterMap fun kind => (x.assigned kind).map (kind, ·)

theorem listing_eq (x : Extractor) : x.listing = listingOf x.fallback x.entries := by
  have texts : (FileKind.all.filterMap fun kind => (x.assigned kind).map fun m =>
      "(" ++ kind.label ++ ", " ++ quote m.name ++ ")") = x.entries.map entryText := by
    rw [entries, List.map_filterMap]
    simp only [Option.map_map]
    rfl
  unfold listing listingOf
  rw [texts]
  cases x.fallback <;> simp only [fallbackText]

theorem mem_entries {x : Extractor} {m : Matcher} :
    (kind, m) ∈ x.entries ↔ x.assigned kind = some m := by
  simp [entries, FileKind.mem_all]

theorem kinds_sublist (x : Extractor) : (x.entries.map (·.1)).Sublist FileKind.all := by
  rw [entries]
  induction FileKind.all with
  | nil => exact .slnil
  | cons kind kinds ih =>
    cases held : x.assigned kind with
    | none => simpa [held] using ih.cons kind
    | some m => simpa [held] using ih

/-! ## The statement -/

theorem last_assignment_decides (base : Extractor) (assignments : List (FileKind × Matcher)) :
    let x := base.withMatchers assignments
    (∀ p text, x.symbolsOfFile p text = x.symbolsOfKind (FileKind.ofPath? p) text) ∧
    (∀ kind text, x.symbolsOfKind (some kind) text = found
      ((lastAssigned? assignments kind).or ((base.assigned kind).or base.fallback)) text) ∧
    (∀ text, x.symbolsOfKind none text = found base.fallback text) ∧
    (∃ entries, x.listing = listingOf base.fallback entries ∧
      (entries.map (·.1)).Sublist FileKind.all ∧ ∀ kind m,
        (kind, m) ∈ entries ↔ (lastAssigned? assignments kind).or (base.assigned kind) = some m) ∧
    (∀ front back a b, assignments = front ++ a :: b :: back → a.1 ≠ b.1 →
      let y := base.withMatchers (front ++ b :: a :: back)
      (∀ kind text, y.symbolsOfKind kind text = x.symbolsOfKind kind text) ∧
        (∀ p text, y.symbolsOfFile p text = x.symbolsOfFile p text) ∧ y.listing = x.listing) ∧
    ∀ kind m text,
      (∀ other, other ≠ some kind →
        (x.withMatcher kind m).symbolsOfKind other text = x.symbolsOfKind other text) ∧
      ∀ p, FileKind.ofPath? p ≠ some kind →
        (x.withMatcher kind m).symbolsOfFile p text = x.symbolsOfFile p text := by
  intro x
  refine ⟨fun _ _ => rfl, fun kind text => ?_, fun text => ?_, ?_, ?_, fun kind m text => ?_⟩
  · rw [symbolsOfKind_eq, Option.bind_some, assigned_withMatchers, fallback_withMatchers,
      Option.or_assoc]
  · rw [symbolsOfKind_eq, fallback_withMatchers]
    rfl
  · refine ⟨x.entries, ?_, kinds_sublist x, fun kind m => ?_⟩
    · rw [listing_eq, fallback_withMatchers]
    · rw [mem_entries, assigned_withMatchers]
  · rintro front back a b rfl different
    have same : base.withMatchers (front ++ b :: a :: back) = x :=
      withMatchers_congr base (lastAssigned?_swap different)
    rw [same]
    exact ⟨fun _ _ => rfl, fun _ _ => rfl, rfl⟩
  · exact ⟨fun other different => symbolsOfKind_withMatcher_of_ne x m different text,
      fun p different => symbolsOfKind_withMatcher_of_ne x m different text⟩

end Extractor

end ProjectContext
