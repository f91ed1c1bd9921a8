import ProjectContext.Proofs.Session.Outcome

/-!
# Runs over a source that stays

While a source does not change, and answers all spellings of a path alike, a cache holds nothing but
what the source holds (`faithful_run`). A generation then has the outcome that it would have with an
empty cache, so the registered paths decide it, whatever else has happened in the run
(`registered_paths_decide_context`).
-/

namespace ProjectContext.Session

variable {s t : Session} {source : Source}

/-! ## Caches over one source -/

/-- What the cache holds is what the source holds. -/
def Faithful (s : Session) (source : Source) : Prop :=
  ∀ p content, s.cache.get? p = some content →
    ∃ text, source.read p = .ok text ∧ content = .ofText text

theorem Faithful.available_eq (faithful : Faithful s source) (p : Path) :
    s.available source p = (source.read p).map .ofText := by
  cases known : s.cache.get? p with
  | none => exact available_of_unknown known
  | some content =>
    obtain ⟨text, given, rfl⟩ := faithful p content known
    rw [available_of_known known, given]
    rfl

theorem faithful_after (uniform : source.Uniform) (faithful : Faithful s source)
    (request : Request) : Faithful (s.after source request) source := by
  intro p content held
  obtain ⟨reads, -, learnt⟩ := after_learnt s source request
  rcases (learnt p content).mp held with known | ⟨q, -, same, text, given, rfl⟩
  · exact faithful p content known
  · exact ⟨text, (uniform q p same).2.symm.trans given, rfl⟩

theorem faithful_run (uniform : source.Uniform) (faithful : Faithful s source)
    (requests : List Request) : Faithful (s.run (requests.map (source, ·))) source := by
  induction requests generalizing s with
  | nil => exact faithful
  | cons request rest ih => exact ih (faithful_after uniform faithful request)

theorem Opened.faithful (opened : Opened s) (source : Source) : Faithful s source := by
  intro p content known
  rw [opened.cache_eq] at known
  cases known

/-! ## Sessions with the same registered paths -/

theorem Alike.of_faithful (uniform : source.Uniform) (first : Faithful s source)
    (second : Faithful t source) (files : s.files = t.files)
    (registered : ∀ p, s.isRegistered p ↔ t.isRegistered p) : Alike s t source where
  files p := by rw [contains_members, contains_members, files, registered]
  available p q same := by
    rw [first.available_eq, second.available_eq, (uniform p q same).2]

theorem facts_eq (files : s.files = t.files) (extractor : s.extractor = t.extractor)
    (registered : ∀ p, s.isRegistered p ↔ t.isRegistered p) (p : Path) (content : Content) :
    s.facts p (projectKind s.files p) content = t.facts p (projectKind t.files p) content := by
  rw [facts, facts, files, extractor, Bool.eq_iff_iff.mpr (registered p)]

/-- Two context maps of the same files, of each of which the sessions can get the same. -/
theorem Alike.same (alike : Alike s t source) (uniform : source.Uniform) (files : s.files = t.files)
    (extractor : s.extractor = t.extractor)
    (registered : ∀ p, s.isRegistered p ↔ t.isRegistered p) {m n : ContextMap}
    (made : (s.generate source).1 = .ok m) (done : (t.generate source).1 = .ok n) : m.Same n := by
  apply PathMap.same_of_get?
  intro p
  by_cases member : s.members.contains p
  · obtain ⟨content, given, first⟩ := get?_generated uniform made member
    obtain ⟨content', given', second⟩ := get?_generated uniform done ((alike.files p).mp member)
    rw [alike.available p p (Path.Same.refl p), given', Except.ok.injEq] at given
    rw [first, second, given, facts_eq files extractor registered]
  · have foreign : ¬ t.members.contains p := fun held => member ((alike.files p).mpr held)
    rw [← contains_generated made] at member
    rw [← contains_generated done] at foreign
    rw [PathMap.get?_eq_none.mpr member, PathMap.get?_eq_none.mpr foreign]

/-! ## Runs -/

/-- The paths that a run over one source registers are those that it is asked to register and that
exist, whatever the order. -/
theorem isRegistered_over (opened : Opened s) (uniform : source.Uniform) (requests : List Request)
    (p : Path) : (s.run (requests.map (source, ·))).isRegistered p ↔
      source.holds p ∧ ∃ q, .register q ∈ requests ∧ q.Same p := by
  have fresh : ¬ s.isRegistered p := by
    rw [isRegistered, opened.registered_eq]
    exact Bool.false_ne_true
  have asked (q : Path) : q ∈ accepted (requests.map (source, ·)) ↔
      .register q ∈ requests ∧ source.holds q := by
    simp [mem_accepted]
  rw [isRegistered_run, or_iff_right fresh]
  constructor
  · rintro ⟨q, member, same⟩
    obtain ⟨wanted, held⟩ := (asked q).mp member
    exact ⟨(uniform q p same).1 ▸ held, q, wanted, same⟩
  · rintro ⟨held, q, wanted, same⟩
    exact ⟨q, (asked q).mpr ⟨wanted, (uniform q p same).1 ▸ held⟩, same⟩

/-- Two sessions over one project and one source that stays. If they end with the same registered
paths up to spelling, their context maps are the same, or they fail alike; and they end so if they
were asked to register the same paths up to spelling, however often and whatever came between. -/
theorem registered_paths_decide_context (openedS : Opened s) (openedT : Opened t)
    (files : s.files = t.files) (extractor : s.extractor = t.extractor) (uniform : source.Uniform)
    (first second : List Request) :
    let s' := s.run (first.map (source, ·))
    let t' := t.run (second.map (source, ·))
    ((∀ p, s'.isRegistered p ↔ t'.isRegistered p) →
      (∃ m n, (s'.generate source).1 = .ok m ∧ (t'.generate source).1 = .ok n ∧ m.Same n) ∨
      ∃ f g, (s'.generate source).1 = .error f ∧ (t'.generate source).1 = .error g ∧
        f.path.Same g.path ∧ f.error = g.error) ∧
    ((∀ p, (∃ q, .register q ∈ first ∧ q.Same p) ↔ ∃ q, .register q ∈ second ∧ q.Same p) →
      ∀ p, s'.isRegistered p ↔ t'.isRegistered p) := by
  intro s' t'
  have fixedS : Fixed s s' := run_fixed s _
  have fixedT : Fixed t t' := run_fixed t _
  have files' : s'.files = t'.files := by rw [fixedS.files, fixedT.files, files]
  have extractor' : s'.extractor = t'.extractor := by
    rw [fixedS.extractor, fixedT.extractor, extractor]
  constructor
  · intro registered
    have alike : Alike s' t' source := .of_faithful uniform
      (faithful_run uniform (openedS.faithful source) first)
      (faithful_run uniform (openedT.faithful source) second) files' registered
    rcases generate_agree alike with ⟨m, n, made, done⟩ | failed
    · exact .inl ⟨m, n, made, done, alike.same uniform files' extractor' registered made done⟩
    · exact .inr failed
  · intro asked p
    rw [isRegistered_over openedS uniform, isRegistered_over openedT uniform, asked p]

/-- One session generates between two spellings of the registered path, the other one before a third
spelling. -/
theorem respelled_registrations_agree :
    let source : Source := .ofTexts (.ofList [(.ofString "d/a.py", "x"), (.ofString "d/b.py", "y")])
    let s : Session := {
      root := .ofString "d", extractor := .empty, files := [⟨.ofString "d/a.py", .python⟩] }
    let first := [.register (.ofString "d/b.py"), .generate, .register (.ofString "d//b.py")]
    let second := [.report, .register (.ofString "d/./b.py")]
    ∃ m n, ((s.run (first.map (source, ·))).generate source).1 = .ok m ∧
      (({ s with policy := .reject }.run (second.map (source, ·))).generate source).1 = .ok n ∧
      m.Same n ∧ m.keys = [.ofString "d/a.py", .ofString "d/b.py"] ∧
      n.keys = [.ofString "d/a.py", .ofString "d/./b.py"] := by
  intro source s first second
  obtain ⟨outcome, registered⟩ := registered_paths_decide_context (s := s)
    (t := { s with policy := .reject }) (.assembled _ _ _ _) (.assembled _ _ _ _) rfl rfl
    (Source.ofTexts_uniform _) first second
  have asked (p : Path) :
      (∃ q, .register q ∈ first ∧ q.Same p) ↔ ∃ q, .register q ∈ second ∧ q.Same p := by
    have one : (Path.ofString "d/b.py").Same (.ofString "d//b.py") := by decide
    have two : (Path.ofString "d/b.py").Same (.ofString "d/./b.py") := by decide
    simp only [first, second, List.mem_cons, Request.register.injEq, reduceCtorEq, List.not_mem_nil,
      or_false, false_or, or_and_right, exists_or, exists_eq_left]
    constructor
    · rintro (same | same)
      · exact two.symm.trans same
      · exact (two.symm.trans one).trans same
    · exact fun same => .inl (two.trans same)
  have succeeds : ((s.run (first.map (source, ·))).generate source).1.toBool := by decide +kernel
  have spelled : (s.run (first.map (source, ·))).members.keys =
      [.ofString "d/a.py", .ofString "d/b.py"] := by decide +kernel
  have respelled : ({ s with policy := .reject }.run (second.map (source, ·))).members.keys =
      [.ofString "d/a.py", .ofString "d/./b.py"] := by decide +kernel
  rcases outcome (registered asked) with ⟨m, n, made, done, same⟩ | ⟨f, -, failed, -⟩
  · exact ⟨m, n, made, done, same, (generate_ok made).1.trans spelled,
      (generate_ok done).1.trans respelled⟩
  · rw [failed] at succeeds
    cases succeeds

end ProjectContext.Session
