import ProjectContext.Cache
import ProjectContext.Proofs.Path.Lookup

/-!
# Reading through the cache

`read_cases` says what one read can do. A cache only ever grows (`Extends`), and reading a list of
files in order (`readAll`) leaves it alone where every one of them is known.
-/

namespace ProjectContext.Cache

theorem get?_congr {p q : Path} (same : p.Same q) (c : Cache) : c.get? p = c.get? q :=
  PathMap.get?_congr same c.contents

theorem contains_iff {c : Cache} {p : Path} : c.contains p ↔ ∃ content, c.get? p = some content := by
  rw [contains, PathMap.contains_eq_isSome, Option.isSome_iff_exists]
  rfl

theorem get?_eq_none {c : Cache} {p : Path} : c.get? p = none ↔ ¬ c.contains p :=
  PathMap.get?_eq_none

theorem contains_congr {p q : Path} (same : p.Same q) (c : Cache) : c.contains p = c.contains q :=
  PathMap.contains_congr same c.contents

/-! ## One read -/

theorem read_of_known {c : Cache} {p : Path} {content : Content} (known : c.get? p = some content)
    (source : Source) : c.read source p = (.ok content, c) := by
  rw [read, known]

theorem read_of_text {c : Cache} {source : Source} {p : Path} {text : String}
    (unknown : c.get? p = none) (given : source.read p = .ok text) :
    c.read source p =
      (.ok (.ofText text), ⟨c.contents.insert p (.ofText text), c.attempts ++ [p]⟩) := by
  rw [read, unknown, given]

theorem read_of_error {c : Cache} {source : Source} {p : Path} {error : AccessError}
    (unknown : c.get? p = none) (refused : source.read p = .error error) :
    c.read source p = (.error ⟨p, error⟩, ⟨c.contents, c.attempts ++ [p]⟩) := by
  rw [read, unknown, refused]

theorem read_cases (c : Cache) (source : Source) (p : Path) :
    (∃ content, c.get? p = some content ∧ c.read source p = (.ok content, c)) ∨
    (c.get? p = none ∧ ∃ text, source.read p = .ok text ∧ c.read source p =
      (.ok (.ofText text), ⟨c.contents.insert p (.ofText text), c.attempts ++ [p]⟩)) ∨
    (c.get? p = none ∧ ∃ error, source.read p = .error error ∧ c.read source p =
      (.error ⟨p, error⟩, ⟨c.contents, c.attempts ++ [p]⟩)) := by
  cases known : c.get? p with
  | some content => exact .inl ⟨content, rfl, read_of_known known source⟩
  | none =>
    cases given : source.read p with
    | ok text => exact .inr (.inl ⟨rfl, text, rfl, read_of_text known given⟩)
    | error error => exact .inr (.inr ⟨rfl, error, rfl, read_of_error known given⟩)

/-! ## Growth -/

/-- What one cache knows, the other knows as well. -/
def Extends (c after : Cache) : Prop :=
  ∀ p content, c.get? p = some content → after.get? p = some content

theorem Extends.refl (c : Cache) : c.Extends c := fun _ _ known => known

theorem Extends.trans {c₁ c₂ c₃ : Cache} (first : c₁.Extends c₂) (second : c₂.Extends c₃) :
    c₁.Extends c₃ := fun p content known => second p content (first p content known)

theorem Extends.contains {c after : Cache} (grown : c.Extends after) {p : Path}
    (known : c.contains p) : after.contains p := by
  obtain ⟨content, known⟩ := contains_iff.mp known
  exact contains_iff.mpr ⟨content, grown p content known⟩

theorem read_extends (c : Cache) (source : Source) (p : Path) : c.Extends (c.read source p).2 := by
  rcases read_cases c source p with ⟨content, -, eq⟩ | ⟨unknown, text, -, eq⟩ | ⟨-, error, -, eq⟩
  · rw [eq]
    exact Extends.refl c
  · rw [eq]
    intro q content known
    have other : ¬ p.Same q := fun same => by
      rw [get?_congr same, known] at unknown
      cases unknown
    simpa [get?, PathMap.get?_insert, other] using known
  · rw [eq]
    exact Extends.refl c

theorem get?_of_read {c after : Cache} {source : Source} {p : Path} {content : Content}
    (done : c.read source p = (.ok content, after)) : after.get? p = some content := by
  rcases read_cases c source p with ⟨known, found, eq⟩ | ⟨-, text, -, eq⟩ | ⟨-, error, -, eq⟩
  · rw [eq] at done
    cases done
    exact found
  · rw [eq] at done
    cases done
    simp [get?, PathMap.get?_insert, Path.Same.refl]
  · rw [eq] at done
    cases done

/-! ## Reading many files -/

/-- The contents of files read in order, up to the first that cannot be read. -/
def readAll (c : Cache) (source : Source) : List Path → Except ReadFailure (List Content) × Cache
  | [] => (.ok [], c)
  | p :: rest =>
    match c.read source p with
    | (.error failure, c) => (.error failure, c)
    | (.ok content, c) =>
      let (contents, c) := c.readAll source rest
      (contents.map (content :: ·), c)

theorem readAll_extends (c : Cache) (source : Source) (paths : List Path) :
    c.Extends (c.readAll source paths).2 := by
  induction paths generalizing c with
  | nil => exact Extends.refl c
  | cons p rest ih =>
    have grown := read_extends c source p
    rw [readAll]
    cases done : c.read source p with
    | mk result after =>
      rw [done] at grown
      cases result with
      | error failure => exact grown
      | ok content => exact grown.trans (ih after)

/-- What has been read is known afterwards, each file under its own path. -/
theorem readAll_ok {c after : Cache} {source : Source} {paths : List Path}
    {contents : List Content} (done : c.readAll source paths = (.ok contents, after)) :
    List.Forall₂ (fun p content => after.get? p = some content) paths contents := by
  induction paths generalizing c contents with
  | nil =>
    cases done
    exact .nil
  | cons p rest ih =>
    rw [readAll] at done
    cases first : c.read source p with
    | mk result middle =>
      rw [first] at done
      cases result with
      | error failure => cases done
      | ok content =>
        have grown := readAll_extends middle source rest
        cases others : middle.readAll source rest with
        | mk results last =>
          simp only [others] at done grown
          cases results with
          | error failure => cases done
          | ok contents =>
            cases done
            exact .cons (grown p content (get?_of_read first)) (ih others)

theorem readAll_of_known {c : Cache} {paths : List Path} (known : ∀ p ∈ paths, c.contains p)
    (source : Source) : ∃ contents, c.readAll source paths = (.ok contents, c) := by
  induction paths with
  | nil => exact ⟨[], rfl⟩
  | cons p rest ih =>
    obtain ⟨content, here⟩ := contains_iff.mp (known p List.mem_cons_self)
    obtain ⟨contents, later⟩ := ih fun q member => known q (List.mem_cons_of_mem _ member)
    refine ⟨content :: contents, ?_⟩
    simp only [readAll, read_of_known here, later]
    rfl

end ProjectContext.Cache
