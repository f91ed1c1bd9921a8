import ProjectContext.Proofs.Session.Account

/-!
# One more conversation file

What registering a path does to the context map that is built next. The kind of a file of the
project does not come from its path, so registering it changes no more than its flag and its
spelling; a file that is new to the session adds its own entry (`registering_changes_one_entry`).
-/

namespace ProjectContext.Session

variable {s : Session} {source : Source} {p q : Path}

theorem generate_register_of_missing (missing : ¬ source.holds p) :
    ((s.register source p).2.generate source).1 = (s.generate source).1 := by
  obtain ⟨log, eq⟩ := register_missing s (Bool.eq_false_iff.mpr missing)
  rw [eq, generate_fst, generate_fst]
  rfl

/-! ## The session with the path -/

theorem isRegistered_register (held : source.holds p) :
    (s.register source p).2.isRegistered q ↔ p.Same q ∨ s.isRegistered q := by
  rw [register_of_held s held]
  exact PathMap.contains_insert s.registered p q ()

theorem contains_members_register (held : source.holds p) :
    (s.register source p).2.members.contains q ↔ p.Same q ∨ s.members.contains q := by
  rw [contains_members, contains_members, isRegistered_register held, register_of_held s held,
    or_left_comm]

theorem spelling?_members_register (held : source.holds p) :
    (s.register source p).2.members.spelling? q =
      if p.Same q then some ((s.registered.spelling? q).getD p) else s.members.spelling? q := by
  rw [spelling?_members, spelling?_members, register_of_held s held, PathMap.spelling?_insert]
  split <;> rfl

theorem facts_register (held : source.holds p) (kind : Option FileKind) (content : Content) :
    (s.register source p).2.facts q kind content = { s.facts q kind content with
      isConversationFile := decide (p.Same q) || s.isRegistered q } := by
  have flag : (s.register source p).2.isRegistered q = (decide (p.Same q) || s.isRegistered q) := by
    rw [Bool.eq_iff_iff, isRegistered_register held]
    simp
  rw [facts, flag, register_of_held s held, facts]

theorem available_register (held : source.holds p) :
    (s.register source p).2.available source q = s.available source q := by
  rw [register_of_held s held]
  rfl

theorem files_register (held : source.holds p) : (s.register source p).2.files = s.files := by
  rw [register_of_held s held]

/-! ## The context maps -/

variable {m n : ContextMap}

theorem get?_register (uniform : source.Uniform) (held : source.holds p)
    (made : (s.generate source).1 = .ok m)
    (done : ((s.register source p).2.generate source).1 = .ok n) (member : s.members.contains q) :
    ∃ facts, m.get? q = some facts ∧ n.get? q = some { facts with
      isConversationFile := decide (p.Same q) || facts.isConversationFile } := by
  obtain ⟨content, given, first⟩ := get?_generated uniform made member
  obtain ⟨content', given', second⟩ :=
    get?_generated uniform done ((contains_members_register held).mpr (.inr member))
  rw [available_register held, given, Except.ok.injEq] at given'
  rw [files_register held, ← given', facts_register held] at second
  exact ⟨_, first, second⟩

theorem mem_entries_register (uniform : source.Uniform) (held : source.holds p)
    (made : (s.generate source).1 = .ok m)
    (done : ((s.register source p).2.generate source).1 = .ok n) {e : Path × FileFacts}
    (other : ¬ e.1.Same p) : e ∈ n.entries ↔ e ∈ m.entries := by
  have away : ¬ p.Same e.1 := fun same => other same.symm
  have spelled : n.spelling? e.1 = m.spelling? e.1 := by
    rw [spelling?_generated done, spelling?_generated made, spelling?_members_register held,
      if_neg away]
  have value : n.get? e.1 = m.get? e.1 := by
    by_cases member : s.members.contains e.1
    · obtain ⟨facts, first, second⟩ := get?_register uniform held made done member
      rw [first, second]
      simp [away]
    · have absent : ¬ m.contains e.1 := by rwa [contains_generated made]
      have absent' : ¬ n.contains e.1 := by
        rw [contains_generated done, contains_members_register held]
        exact not_or.mpr ⟨away, member⟩
      rw [PathMap.get?_eq_none.mpr absent, PathMap.get?_eq_none.mpr absent']
  rw [PathMap.mem_entries, PathMap.mem_entries, spelled, value]

theorem alike_register (uniform : source.Uniform) (held : source.holds p)
    (member : s.members.contains p) : Alike s (s.register source p).2 source where
  files q := by
    rw [contains_members_register held]
    refine ⟨.inr, fun either => either.elim (fun same => ?_) id⟩
    rwa [← PathMap.contains_congr same]
  available q r same := by rw [available_register held, available_congr uniform same]

/-- The entry of a file that was not read before and whose kind is told by its path. -/
def newEntry (s : Session) (p : Path) (text : String) : Path × FileFacts :=
  let symbols := s.extractor.symbolsOfFile p text
  (p, { functions := symbols.functions
        classes := symbols.classes
        isConversationFile := true
        contentHash := Sha256.hexDigest text })

theorem newEntry_mem (uniform : source.Uniform) (held : source.holds p)
    (fresh : ¬ s.members.contains p) (unread : ¬ s.cache.contains p)
    (done : ((s.register source p).2.generate source).1 = .ok n) :
    ∃ text, source.read p = .ok text ∧ s.newEntry p text ∈ n.entries := by
  obtain ⟨foreign, unregistered⟩ := not_or.mp (mt (contains_members s p).mpr fresh)
  have spelled : n.spelling? p = some p := by
    rw [isRegistered, PathMap.contains_eq_isSome_spelling?, Bool.not_eq_true,
      Option.isSome_eq_false_iff, Option.isNone_iff_eq_none] at unregistered
    rw [spelling?_generated done, spelling?_members_register held, if_pos (Path.Same.refl p),
      unregistered, Option.getD_none]
  obtain ⟨content, given, value⟩ := get?_generated uniform done
    ((contains_members_register held).mpr (.inl (Path.Same.refl p)))
  rw [available_register held, available_of_unknown (Cache.get?_eq_none.mpr unread)] at given
  rw [facts_register held, files_register held, projectKind_of_foreign foreign,
    decide_eq_true (Path.Same.refl p), Bool.true_or] at value
  cases read : source.read p with
  | error error =>
    rw [read] at given
    cases given
  | ok text =>
    rw [read] at given
    cases given
    exact ⟨text, rfl, PathMap.mem_entries.mpr ⟨spelled, value⟩⟩

/-- Registering a path changes no entry of the next context map but that of the path. -/
theorem registering_changes_one_entry {s₀ : Session} (opened : Opened s₀)
    (requests : List (Source × Request)) (uniform : source.Uniform) (p : Path) :
    let s := s₀.run requests
    let s' := (s.register source p).2
    let listed := (∃ file ∈ s.files, file.path.Same p) ∨ s.isRegistered p
    (¬ source.holds p → (s'.generate source).1 = (s.generate source).1) ∧
    (source.holds p → listed →
      (∃ f g, (s.generate source).1 = .error f ∧ (s'.generate source).1 = .error g ∧
        f.path.Same g.path ∧ f.error = g.error) ∨
      ∃ m n, (s.generate source).1 = .ok m ∧ (s'.generate source).1 = .ok n ∧
        (∀ q, n.contains q ↔ m.contains q) ∧
        (∀ e, ¬ e.1.Same p → (e ∈ n.entries ↔ e ∈ m.entries)) ∧
        ∃ facts, m.get? p = some facts ∧
          n.get? p = some { facts with isConversationFile := true }) ∧
    (source.holds p → ¬ listed → ∀ m n, (s.generate source).1 = .ok m →
      (s'.generate source).1 = .ok n → n.size = m.size + 1 ∧
        ∃ text, source.read p = .ok text ∧
          ∀ e, e ∈ n.entries ↔ e ∈ m.entries ∨ e = s.newEntry p text) := by
  intro s s' listed
  refine ⟨generate_register_of_missing, fun held known => ?_, fun held fresh m n made done => ?_⟩
  · have member : s.members.contains p := (contains_members s p).mpr known
    rcases generate_agree (alike_register uniform held member) with ⟨m, n, made, done⟩ | failed
    · refine .inr ⟨m, n, made, done, fun q => ?_, fun e other =>
        mem_entries_register uniform held made done other, ?_⟩
      · rw [contains_generated made, contains_generated done]
        exact ((alike_register uniform held member).files q).symm
      · obtain ⟨facts, first, second⟩ := get?_register uniform held made done member
        rw [decide_eq_true (Path.Same.refl p), Bool.true_or] at second
        exact ⟨facts, first, second⟩
    · exact .inl failed
  · have foreign : ¬ s.members.contains p := mt (contains_members s p).mp fresh
    -- A run reads files of the context alone, so the new file is read now.
    have unread : ¬ s.cache.contains p := mt (cached_run opened requests p) foreign
    obtain ⟨text, given, member⟩ := newEntry_mem uniform held foreign unread done
    have absent : ¬ m.contains p := by rwa [contains_generated made]
    obtain ⟨entries, size⟩ := PathMap.entries_of_agree absent member fun e other =>
      mem_entries_register uniform held made done other
    exact ⟨size, text, given, entries⟩

/-- The project lists the first file as a style sheet; the other one is new. -/
theorem registered_style_sheet_keeps_symbols :
    let python := (Convention.matcher? .python).toOption.map (·.toMatcher)
    let source : Source := .ofTexts (.ofList [(.ofString "d/a.py", "def f(x): pass"),
      (.ofString "d/b.css", "")])
    let s₀ : Session := {
      root := .ofString "d", extractor := ⟨none, fun kind => if kind = .css then python else none⟩
      files := [⟨.ofString "d/a.py", .css⟩] }
    let s := s₀.run [(source, .generate)]
    (∃ m n, (s.generate source).1 = .ok m ∧
      ((s.register source (.ofString "d//a.py")).2.generate source).1 = .ok n ∧
      ∃ facts, m.get? (.ofString "d//a.py") = some facts ∧
        n.get? (.ofString "d//a.py") = some { facts with isConversationFile := true }) ∧
    ∃ m n, (s.generate source).1 = .ok m ∧
      ((s.register source (.ofString "d/b.css")).2.generate source).1 = .ok n ∧
      n.size = m.size + 1 := by
  intro python source s₀ s
  have opened : Opened s₀ := .assembled _ _ _ _
  have uniform : source.Uniform := Source.ofTexts_uniform _
  have succeeds : (s.generate source).1.toBool := by decide +kernel
  have extended : ((s.register source (.ofString "d/b.css")).2.generate source).1.toBool := by
    decide +kernel
  cases made : (s.generate source).1 with
  | error failure =>
    rw [made] at succeeds
    cases succeeds
  | ok m =>
    cases done : ((s.register source (.ofString "d/b.css")).2.generate source).1 with
    | error failure =>
      rw [done] at extended
      cases extended
    | ok n =>
      have known := (registering_changes_one_entry opened [(source, .generate)] uniform
        (.ofString "d//a.py")).2.1 (by decide) (.inl ⟨_, .head _, by decide⟩)
      have fresh := (registering_changes_one_entry opened [(source, .generate)] uniform
        (.ofString "d/b.css")).2.2 (by decide) (by decide +kernel) m n made done
      rcases known with ⟨f, g, failed, -⟩ | ⟨m', n', made', done', -, -, facts⟩
      · rw [made] at failed
        cases failed
      · exact ⟨⟨m', n', made.symm.trans made', done', facts⟩, m, n, rfl, rfl, fresh.1⟩

end ProjectContext.Session
