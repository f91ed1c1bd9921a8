import ProjectContext.Proofs.Session.Runs

/-!
# What a context map says

The files of a context are merged from the registered paths and the project's (`spelling?_members`,
`kind_of_mem_members`), and each entry is made of the content that the cache holds afterwards
(`generate_ok`). Over a run this gives the whole map in terms of the project and of the paths that
the run has registered (`generate_describes_union`).
-/

namespace ProjectContext.Session

/-- The kind of the last file of the project at a path, or else what the path itself tells. -/
def projectKind (files : List DiscoveredFile) (p : Path) : Option FileKind :=
  ((files.reverse.find? fun file => decide (file.path.Same p)).map (·.kind)).or (FileKind.ofPath? p)

theorem projectKind_congr {p q : Path} (same : p.Same q) (files : List DiscoveredFile) :
    projectKind files p = projectKind files q := by
  have equal : ∀ r : Path, decide (r.Same p) = decide (r.Same q) := fun r =>
    decide_eq_decide.mpr ⟨fun here => here.trans same, fun here => here.trans same.symm⟩
  simp only [projectKind, equal, FileKind.ofPath?_eq_of_same same]

theorem projectKind_of_foreign {files : List DiscoveredFile} {p : Path}
    (foreign : ¬ ∃ file ∈ files, file.path.Same p) :
    projectKind files p = FileKind.ofPath? p := by
  have missed : (files.reverse.find? fun file => decide (file.path.Same p)) = none := by
    simpa using foreign
  rw [projectKind, missed]
  rfl

/-! ## The files of a context -/

theorem spelling?_members (s : Session) (p : Path) :
    s.members.spelling? p = (s.registered.spelling? p).or (p.firstIn (s.files.map (·.path))) := by
  rw [members, PathMap.spelling?_insertAll, PathMap.ofList, PathMap.spelling?_insertAll, List.map_map,
    List.map_map, PathMap.spelling?_eq_firstIn s.registered]
  simp [PathMap.spelling?, PathMap.find?, PathMap.empty, Function.comp_def, conversationFiles]

theorem mem_keys_members (s : Session) (p : Path) :
    (∃ key ∈ s.members.keys, key.Same p) ↔
      (∃ file ∈ s.files, file.path.Same p) ∨ s.isRegistered p := by
  rw [← Path.firstIn_isSome, ← PathMap.spelling?_eq_firstIn, spelling?_members, Option.isSome_or,
    Bool.or_eq_true, Path.firstIn_isSome, isRegistered, PathMap.contains_eq_isSome_spelling?, or_comm]
  simp

theorem contains_members (s : Session) (p : Path) :
    s.members.contains p ↔ (∃ file ∈ s.files, file.path.Same p) ∨ s.isRegistered p :=
  PathMap.contains_iff_key.trans (mem_keys_members s p)

theorem kind_of_mem_members {s : Session} {e : Path × Option FileKind}
    (member : e ∈ s.members.entries) : e.2 = projectKind s.files e.1 := by
  have value := PathMap.get?_of_mem member
  rw [members, PathMap.get?_insertAll, PathMap.ofList, PathMap.get?_insertAll] at value
  have project : PathMap.lastValue (s.files.map fun file => (file.path, some file.kind)) e.1 =
      (s.files.reverse.find? fun file => decide (file.path.Same e.1)).map fun file =>
        some file.kind := by
    simp [PathMap.lastValue, ← List.map_reverse, List.find?_map, Function.comp_def]
  rw [project] at value
  rw [projectKind]
  cases last : s.files.reverse.find? fun file => decide (file.path.Same e.1) with
  | some file => simpa [last, eq_comm] using value
  | none =>
    -- No file of the project is at this path, so the entry comes from a registered path.
    simp only [last, Option.map_none, Option.none_or, PathMap.lastValue, Option.or_eq_some_iff,
      Option.map_eq_some_iff] at value ⊢
    rcases value with ⟨r, found, kind⟩ | ⟨-, absurd⟩
    · obtain ⟨q, -, rfl⟩ := List.mem_map.mp (List.mem_reverse.mp (List.mem_of_find?_eq_some found))
      have same : q.Same e.1 := by simpa using List.find?_some found
      rw [← kind, FileKind.ofPath?_eq_of_same same]
    · simp [PathMap.get?, PathMap.find?, PathMap.empty] at absurd

/-! ## One generation -/

theorem mem_zipWith {α β γ : Type*} {R : α → β → Prop} {f : α → β → γ} {as : List α} {bs : List β}
    (related : List.Forall₂ R as bs) {c : γ} (member : c ∈ List.zipWith f as bs) :
    ∃ a b, a ∈ as ∧ R a b ∧ c = f a b := by
  induction related with
  | nil => cases member
  | @cons a b _ _ here _ ih =>
    rcases List.mem_cons.mp member with rfl | member
    · exact ⟨a, b, List.mem_cons_self, here, rfl⟩
    · obtain ⟨a, b, later, here, rfl⟩ := ih member
      exact ⟨a, b, List.mem_cons_of_mem _ later, here, rfl⟩

theorem keys_zipWith_entryOf {s : Session} {R : Path × Option FileKind → Content → Prop}
    {entries : List (Path × Option FileKind)} {contents : List Content}
    (related : List.Forall₂ R entries contents) :
    (List.zipWith s.entryOf entries contents).map (·.1) = entries.map (·.1) := by
  induction related with
  | nil => rfl
  | cons here later ih => simpa [entryOf] using ih

theorem generate_fst (s : Session) (source : Source) : (s.generate source).1 =
    (s.cache.readAll source s.members.keys).1.map fun contents =>
      PathMap.ofList (List.zipWith s.entryOf s.members.entries contents) := by
  obtain ⟨log, eq⟩ := collect_eq s source s.members.entries
  rw [generate, eq, PathMap.keys]
  cases (s.cache.readAll source (s.members.entries.map (·.1))).1 <;> rfl

theorem generate_eq (s : Session) (source : Source) :
    ((∃ failure, (s.cache.readAll source s.members.keys).1 = .error failure ∧
      (s.generate source).1 = .error failure) ∨
    ∃ contents m, (s.cache.readAll source s.members.keys).1 = .ok contents ∧
      (s.generate source).1 = .ok m ∧
      m.entries = List.zipWith s.entryOf s.members.entries contents) := by
  rw [generate_fst]
  cases done : s.cache.readAll source s.members.keys with
  | mk result cache =>
    cases result with
    | error failure => exact .inl ⟨failure, rfl, rfl⟩
    | ok contents =>
      have known := List.forall₂_map_left_iff.mp (Cache.readAll_ok done)
      have ascending : KeysAscend (List.zipWith s.entryOf s.members.entries contents) := by
        have keys := s.members.keys_ascend
        rw [PathMap.keys, ← keys_zipWith_entryOf (s := s) known] at keys
        have ascending := List.pairwise_map.mp keys
        exact ascending
      exact .inr ⟨contents, _, rfl, rfl, PathMap.entries_ofList ascending⟩

theorem generate_ok {s : Session} {source : Source} {m : ContextMap}
    (made : (s.generate source).1 = .ok m) :
    m.keys = s.members.keys ∧ ∀ e ∈ m.entries, ∃ content,
      (s.generate source).2.cache.get? e.1 = some content ∧
        e.2 = s.facts e.1 (projectKind s.files e.1) content := by
  obtain ⟨log, snd⟩ := generate_snd s source
  rcases generate_eq s source with ⟨failure, -, failed⟩ | ⟨contents, m', read, made', entries⟩
  · rw [failed] at made
    cases made
  · rw [made', Except.ok.injEq] at made
    subst made
    have known : List.Forall₂ (fun e content => (s.cacheAfter source).get? e.1 = some content)
        s.members.entries contents :=
      List.forall₂_map_left_iff.mp (Cache.readAll_ok (Prod.ext read rfl))
    constructor
    · rw [PathMap.keys, entries, keys_zipWith_entryOf known]
      rfl
    · intro e member
      rw [entries] at member
      obtain ⟨file, content, present, here, rfl⟩ := mem_zipWith known member
      refine ⟨content, ?_, ?_⟩
      · rw [snd]
        exact here
      · rw [entryOf, kind_of_mem_members present]

/-- The entries of the files that the conversation mentions are those of the registered paths, in
their order and spelling. -/
theorem conversationEntries_paths {s : Session} {source : Source} {m : ContextMap}
    (made : (s.generate source).1 = .ok m) :
    (ContextMap.conversationEntries m).map (·.1) = s.conversationFiles := by
  obtain ⟨keys, entries⟩ := generate_ok made
  have flag {e : Path × FileFacts} (member : e ∈ m.entries) :
      e.2.isConversationFile = s.isRegistered e.1 := by
    obtain ⟨content, -, facts⟩ := entries e member
    rw [facts]
    rfl
  have listed (p : Path) : p ∈ (ContextMap.conversationEntries m).map (·.1) ↔
      p ∈ m.keys ∧ s.isRegistered p := by
    simp only [ContextMap.conversationEntries, List.mem_map, List.mem_filter, PathMap.mem_keys]
    constructor
    · rintro ⟨e, ⟨member, flagged⟩, rfl⟩
      exact ⟨⟨e, member, rfl⟩, flag member ▸ flagged⟩
    · rintro ⟨⟨e, member, rfl⟩, registered⟩
      exact ⟨e, ⟨member, (flag member).trans registered⟩, rfl⟩
  have registered (p : Path) : p ∈ m.keys ∧ s.isRegistered p ↔ p ∈ s.conversationFiles := by
    rw [keys, ← PathMap.spelling?_eq_self, spelling?_members, isRegistered,
      PathMap.contains_eq_isSome_spelling?, conversationFiles, ← PathMap.spelling?_eq_self]
    cases s.registered.spelling? p <;> simp
  have ascending : ((ContextMap.conversationEntries m).map (·.1)).Pairwise
      fun p q => p.key < q.key :=
    m.keys_ascend.sublist (List.filter_sublist.map _)
  exact eq_of_ascending Path.key ascending s.registered.keys_ascend fun p =>
    (listed p).trans (registered p)

/-! ## Generation in a run -/

theorem generate_describes_union {s₀ : Session} (opened : Opened s₀)
    (requests : List (Source × Request)) (source : Source) {m : ContextMap}
    (made : ((s₀.run requests).generate source).1 = .ok m) :
    m.keys.Pairwise (fun p q => p.key < q.key) ∧
    (∀ p, (∃ key ∈ m.keys, key.Same p) ↔
      (∃ file ∈ s₀.files, file.path.Same p) ∨ ∃ q ∈ accepted requests, q.Same p) ∧
    (∀ key ∈ m.keys, key.firstIn (accepted requests ++ s₀.files.map (·.path)) = some key) ∧
    ∀ e ∈ m.entries,
      (e.2.isConversationFile ↔ ∃ q ∈ accepted requests, q.Same e.1) ∧
      ∃ content, ((s₀.run requests).generate source).2.cache.get? e.1 = some content ∧
        ⟨e.2.functions, e.2.classes⟩ =
          s₀.extractor.symbolsOfKind (projectKind s₀.files e.1) content.text ∧
        e.2.contentHash = content.hash := by
  have fixed := run_fixed s₀ requests
  have registered (p : Path) :
      (s₀.run requests).isRegistered p ↔ ∃ q ∈ accepted requests, q.Same p := by
    rw [isRegistered_run, isRegistered, opened.registered_eq]
    simp [PathMap.contains, PathMap.find?, PathMap.empty]
  obtain ⟨keys, entries⟩ := generate_ok made
  refine ⟨m.keys_ascend, fun p => ?_, fun key member => ?_, fun e member => ?_⟩
  · rw [keys, mem_keys_members, fixed.files, registered]
  · obtain ⟨e, present, rfl⟩ := PathMap.mem_keys.mp (keys ▸ member)
    have spelled := PathMap.spelling?_of_mem present
    rw [spelling?_members, spelling?_run, opened.registered_eq, fixed.files] at spelled
    simpa [Path.firstIn, PathMap.spelling?, PathMap.find?, PathMap.empty] using spelled
  · obtain ⟨content, held, facts⟩ := entries e member
    refine ⟨?_, content, held, ?_, ?_⟩
    · rw [facts]
      exact registered e.1
    · rw [facts, fixed.files]
      show _ = s₀.extractor.symbolsOfKind _ _
      rw [← fixed.extractor]
      rfl
    · rw [facts]
      rfl

/-- A file that the project lists twice under two spellings and kinds, and that is registered under
a third spelling. -/
theorem respelled_file_described :
    let python := (Convention.matcher? .python).toOption.map (·.toMatcher)
    let source : Source := .ofTexts (.ofList [(.ofString "d/a.py", "def f(x): pass")])
    let s₀ : Session := {
      root := .ofString "d", extractor := ⟨none, fun kind => if kind = .css then python else none⟩
      files := [⟨.ofString "d/a.py", .python⟩, ⟨.ofString "d//a.py", .css⟩] }
    ∃ m, ((s₀.run [(source, .generate), (source, .register (.ofString "d/./a.py"))]).generate
        source).1 = .ok m ∧
      ∀ key ∈ m.keys, key.firstIn (accepted [(source, .generate), (source, .register
        (.ofString "d/./a.py"))] ++ s₀.files.map (·.path)) = some key := by
  intro python source s₀
  exact ⟨_, rfl, (generate_describes_union (.assembled _ _ _ _) _ source rfl).2.2.1⟩

end ProjectContext.Session
