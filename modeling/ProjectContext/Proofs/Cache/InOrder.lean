import ProjectContext.Proofs.Cache.Reading

/-!
# Reading files in the order of paths

Reading a list of files asks the source for the unknown ones alone, in turn, and stops behind the
first that it refuses (`readAll_cases`). What a cache has `Learnt` from the reads that succeeded is
all that is new in it.
-/

namespace ProjectContext.Cache

variable {c after : Cache} {source : Source} {reads : List Path}

/-- What is known afterwards was known before or comes from one of the reads. -/
def Learnt (c : Cache) (source : Source) (reads : List Path) (after : Cache) : Prop :=
  ∀ p content, after.get? p = some content ↔
    c.get? p = some content ∨
      ∃ q ∈ reads, q.Same p ∧ ∃ text, source.read q = .ok text ∧ content = .ofText text

theorem Learnt.nil (c : Cache) (source : Source) (attempts : List Path) :
    c.Learnt source [] ⟨c.contents, attempts⟩ := fun p content => by simp [get?]

theorem learnt_insert {p : Path} {text : String} (unknown : c.get? p = none)
    (given : source.read p = .ok text) (attempts : List Path) :
    c.Learnt source [p] ⟨c.contents.insert p (.ofText text), attempts⟩ := by
  intro q content
  rw [get?, PathMap.get?_insert]
  split
  · rename_i same
    have fresh : c.get? q = none := get?_congr same c ▸ unknown
    simp [fresh, same, given, eq_comm]
  · rename_i other
    simp [get?, other]

theorem Learnt.append {middle : Cache} {first later : List Path}
    (before : c.Learnt source first middle) (behind : middle.Learnt source later after) :
    c.Learnt source (first ++ later) after := by
  intro p content
  rw [behind, before, or_assoc]
  refine or_congr_right ⟨?_, ?_⟩
  · rintro (⟨q, member, read⟩ | ⟨q, member, read⟩)
    · exact ⟨q, List.mem_append_left _ member, read⟩
    · exact ⟨q, List.mem_append_right _ member, read⟩
  · rintro ⟨q, member, read⟩
    rcases List.mem_append.mp member with member | member
    · exact .inl ⟨q, member, read⟩
    · exact .inr ⟨q, member, read⟩

def unknown (c : Cache) (paths : List Path) : List Path := paths.filter fun p => !c.contains p

theorem mem_unknown {p : Path} {paths : List Path} :
    p ∈ c.unknown paths ↔ p ∈ paths ∧ ¬ c.contains p := by
  simp [unknown]

theorem unknown_cons_of_known {p : Path} {rest : List Path} {content : Content}
    (known : c.get? p = some content) : c.unknown (p :: rest) = c.unknown rest := by
  simp [unknown, contains_iff.mpr ⟨content, known⟩]

theorem unknown_cons_of_fresh {p : Path} {rest : List Path} (fresh : c.get? p = none) :
    c.unknown (p :: rest) = p :: c.unknown rest := by
  have absent : ¬ c.contains p := by
    rw [contains_iff]
    simp [fresh]
  simp [unknown, absent]

theorem unknown_of_other {p : Path} {paths : List Path} (learnt : c.Learnt source [p] after)
    (other : ∀ q ∈ paths, ¬ p.Same q) : after.unknown paths = c.unknown paths := by
  refine List.filter_congr fun q member => ?_
  congr 1
  rw [Bool.eq_iff_iff, contains_iff, contains_iff]
  refine exists_congr fun content => ?_
  rw [learnt]
  simp [other q member]

theorem readAll_cases (c : Cache) (source : Source) {paths : List Path}
    (ascending : paths.Pairwise fun p q => p.key < q.key) :
    ((∃ contents, (c.readAll source paths).1 = .ok contents) ∧
      (∀ p ∈ c.unknown paths, ∃ text, source.read p = .ok text) ∧
      (c.readAll source paths).2.attempts = c.attempts ++ c.unknown paths ∧
      c.Learnt source (c.unknown paths) (c.readAll source paths).2) ∨
    ∃ before p rest error, c.unknown paths = before ++ p :: rest ∧
      (c.readAll source paths).1 = .error ⟨p, error⟩ ∧ source.read p = .error error ∧
      (∀ q ∈ before, ∃ text, source.read q = .ok text) ∧
      (c.readAll source paths).2.attempts = c.attempts ++ (before ++ [p]) ∧
      c.Learnt source before (c.readAll source paths).2 := by
  induction paths generalizing c with
  | nil =>
    refine .inl ⟨⟨[], rfl⟩, ?_, ?_, Learnt.nil c source c.attempts⟩
    · simp [unknown]
    · simp [readAll, unknown]
  | cons p rest ih =>
    obtain ⟨least, ascending⟩ := List.pairwise_cons.mp ascending
    rw [readAll]
    rcases read_cases c source p with ⟨content, known, eq⟩ | ⟨fresh, text, given, eq⟩ |
      ⟨fresh, error, refused, eq⟩
    · simp only [eq, unknown_cons_of_known known]
      rcases ih c ascending with ⟨⟨contents, read⟩, others⟩ | ⟨before, q, later, error, cut, read, others⟩
      · exact .inl ⟨⟨content :: contents, by rw [read]; rfl⟩, others⟩
      · exact .inr ⟨before, q, later, error, cut, by rw [read]; rfl, others⟩
    · have learnt := learnt_insert fresh given (c.attempts ++ [p])
      have other : ∀ q ∈ rest, ¬ p.Same q := fun q member same =>
        absurd (Path.same_iff_key_eq.mp same) (least q member).ne
      simp only [eq, unknown_cons_of_fresh fresh, ← unknown_of_other learnt other]
      rcases ih ⟨c.contents.insert p (.ofText text), c.attempts ++ [p]⟩ ascending with
        ⟨⟨contents, read⟩, readable, attempts, more⟩ |
        ⟨before, q, later, error, cut, read, refused, readable, attempts, more⟩
      · refine .inl ⟨⟨.ofText text :: contents, by rw [read]; rfl⟩, ?_, ?_, learnt.append more⟩
        · exact List.forall_mem_cons.mpr ⟨⟨text, given⟩, readable⟩
        · rw [attempts, List.append_assoc, List.singleton_append]
      · refine .inr ⟨p :: before, q, later, error, by rw [cut]; rfl, by rw [read]; rfl, refused, ?_,
          ?_, learnt.append more⟩
        · exact List.forall_mem_cons.mpr ⟨⟨text, given⟩, readable⟩
        · rw [attempts, List.append_assoc]
          rfl
    · simp only [eq, unknown_cons_of_fresh fresh]
      exact .inr ⟨[], p, c.unknown rest, error, rfl, rfl, refused, by simp, rfl,
        Learnt.nil c source _⟩

/-- All that is new in the cache comes from reads of unknown files. -/
theorem readAll_learnt (c : Cache) (source : Source) {paths : List Path}
    (ascending : paths.Pairwise fun p q => p.key < q.key) :
    ∃ reads, (∀ p ∈ reads, p ∈ c.unknown paths) ∧
      c.Learnt source reads (c.readAll source paths).2 := by
  rcases readAll_cases c source ascending with
    ⟨-, -, -, learnt⟩ | ⟨before, p, rest, error, cut, -, -, -, -, learnt⟩
  · exact ⟨c.unknown paths, fun _ member => member, learnt⟩
  · refine ⟨before, fun q member => ?_, learnt⟩
    rw [cut]
    exact List.mem_append_left _ member

end ProjectContext.Cache
