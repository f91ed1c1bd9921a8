import ProjectContext.Proofs.Cache.History
import ProjectContext.Proofs.Session.Outcome

/-!
# What a run leaves behind

A request changes little of a session, and what it changes can be told from the requests: a path is
registered once and keeps its spelling (`register_changes_iff`), the cache holds files of the
context alone (`cached_run`), and the log tells each read that filled it (`traced_run`). The source
may be another one at every request (`run_accounted_for`).
-/

namespace ProjectContext

/-! ## Read events -/

def LogEvent.isRead : LogEvent → Bool
  | .read _ _ => true
  | _ => false

namespace Cache

/-- The event that tells of a read, if the read succeeded. -/
def SourceRead.event? (r : SourceRead) : Option LogEvent :=
  match r.outcome with
  | .ok text => some (.read r.path (Bytes.ofString text).length)
  | .error _ => none

theorem SourceRead.event?_isSome (r : SourceRead) : r.event?.isSome = r.succeeded := by
  rw [event?, succeeded]
  cases r.outcome <;> rfl

theorem SourceRead.succeeded_iff_event {r : SourceRead} :
    r.succeeded ↔ ∃ size, r.event? = some (.read r.path size) := by
  rw [event?, succeeded]
  cases r.outcome <;> simp [Except.isOk, Except.toBool]

theorem SourceRead.path_of_event {r : SourceRead} {p : Path} {size : Nat}
    (told : r.event? = some (.read p size)) : r.path = p := by
  rw [event?] at told
  split at told
  · cases told
    rfl
  · cases told

theorem Recorded.events_length {c : Cache} {reads : List SourceRead} (recorded : Recorded c reads) :
    (reads.filterMap SourceRead.event?).length = c.size := by
  -- Once a read of a file succeeds, the file is never read again.
  have distinct : ((reads.filter (·.succeeded)).map (·.path.key)).Nodup := by
    refine List.pairwise_map.mpr (List.pairwise_filter.mpr (recorded.once.imp ?_))
    intro earlier later once succeeded _ same
    exact once (Path.same_iff_key_eq.mpr same) succeeded
  have length : (reads.filterMap SourceRead.event?).length =
      (reads.filter (·.succeeded)).length := by
    simp [List.length_filterMap_eq_countP, List.countP_eq_length_filter, SourceRead.event?_isSome]
  rw [recorded.size_eq, List.toFinset_card_of_nodup distinct, List.length_map, length]

end Cache

namespace Session

variable {s : Session} {source : Source} {reads : List Cache.SourceRead}

/-- The reads are all that were made for the cache, and the log tells of those that succeeded. -/
structure Traced (s : Session) (reads : List Cache.SourceRead) : Prop where
  recorded : Cache.Recorded s.cache reads
  events : s.log.filter LogEvent.isRead = reads.filterMap Cache.SourceRead.event?

def readsOf (source : Source) (tried : List Path) : List Cache.SourceRead :=
  tried.map fun p => ⟨p, source.read p⟩

/-- One session comes from the other by reads of the source. -/
def ComesFrom (after s : Session) (source : Source) : Prop :=
  ∃ tried, after.cache.attempts = s.cache.attempts ++ tried ∧
    ∀ reads, Traced s reads → Traced after (reads ++ readsOf source tried)

theorem ComesFrom.of_unread {after : Session} (cache : after.cache = s.cache)
    (events : after.log.filter LogEvent.isRead = s.log.filter LogEvent.isRead) :
    ComesFrom after s source := by
  refine ⟨[], by simp [cache], fun reads traced => ?_⟩
  rw [readsOf, List.map_nil, List.append_nil]
  exact ⟨cache ▸ traced.recorded, events.trans traced.events⟩

theorem ComesFrom.trans {after last : Session} (second : ComesFrom last after source)
    (first : ComesFrom after s source) : ComesFrom last s source := by
  obtain ⟨tried, attempts, traced⟩ := first
  obtain ⟨tried', attempts', traced'⟩ := second
  refine ⟨tried ++ tried', ?_, fun reads before => ?_⟩
  · rw [attempts', attempts, List.append_assoc]
  · have both := traced' _ (traced reads before)
    rwa [List.append_assoc, readsOf, readsOf, ← List.map_append] at both

theorem comesFrom_readFile (s : Session) (source : Source) (p : Path) :
    ComesFrom (s.readFile source p).2 s source := by
  have recorded (reads : List Cache.SourceRead) (traced : Traced s reads) :=
    Cache.recorded_answer traced.recorded source (.read p)
  rcases Cache.read_cases s.cache source p with ⟨content, known, eq⟩ |
    ⟨unknown, text, given, eq⟩ | ⟨unknown, error, refused, eq⟩
  · have held : s.cache.contains p = true := Cache.contains_iff.mpr ⟨content, known⟩
    simp only [readFile, eq, held, if_true]
    exact .of_unread rfl rfl
  · have fresh : s.cache.contains p = false := by simpa using Cache.get?_eq_none.mp unknown
    simp only [readFile, eq, fresh, Bool.false_eq_true, if_false, logged]
    refine ⟨[p], rfl, fun reads traced => ⟨?_, ?_⟩⟩
    · simpa [Cache.answer, Cache.readsBy, readsOf, eq] using recorded reads traced
    · simp [traced.events, readsOf, given, LogEvent.isRead, Cache.SourceRead.event?, Content.ofText]
  · simp only [readFile, eq]
    refine ⟨[p], rfl, fun reads traced => ⟨?_, ?_⟩⟩
    · simpa [Cache.answer, Cache.readsBy, readsOf, eq] using recorded reads traced
    · simp [traced.events, readsOf, refused, Cache.SourceRead.event?]

theorem comesFrom_collect (s : Session) (source : Source)
    (entries : List (Path × Option FileKind)) :
    ComesFrom (s.collect source entries).2 s source := by
  induction entries generalizing s with
  | nil => exact .of_unread rfl rfl
  | cons e rest ih =>
    obtain ⟨p, kind⟩ := e
    have first := comesFrom_readFile s source p
    rw [collect]
    cases done : s.readFile source p with
    | mk result next =>
      rw [done] at first
      cases result with
      | error failure => exact first
      | ok content =>
        have later := (ih next).trans first
        cases others : next.collect source rest with
        | mk results last =>
          rw [others] at later
          cases results with
          | error failure => simpa only [others] using later
          | ok entries => simpa only [others] using later

theorem comesFrom_generate (s : Session) (source : Source) :
    ComesFrom (s.generate source).2 s source := by
  have collected := comesFrom_collect s source s.members.entries
  rw [generate]
  cases done : s.collect source s.members.entries with
  | mk result next =>
    rw [done] at collected
    cases result with
    | error failure => exact collected
    | ok entries =>
      have told (count : Nat) : ComesFrom (next.logged (.generated count)) next source :=
        .of_unread rfl (by simp [logged, LogEvent.isRead])
      exact (told _).trans collected

theorem comesFrom_register (s : Session) (source : Source) (p : Path) :
    ComesFrom (s.register source p).2 s source := by
  rw [register]
  split
  · refine .of_unread rfl ?_
    simp [logged, LogEvent.isRead]
  · split
    · refine .of_unread rfl ?_
      simp [logged, LogEvent.isRead]
    · exact .of_unread rfl rfl

theorem comesFrom_after (s : Session) (source : Source) (request : Request) :
    ComesFrom (s.after source request) s source := by
  cases request with
  | register p => exact comesFrom_register s source p
  | generate => exact comesFrom_generate s source
  | insights => exact comesFrom_generate s source
  | report => exact comesFrom_generate s source

/-- The reads that a request makes, each with what the source gives at the time. -/
def readsBy (s : Session) (source : Source) (request : Request) : List Cache.SourceRead :=
  readsOf source ((s.after source request).cache.attempts.drop s.cache.attempts.length)

def sourceReads (s : Session) : List (Source × Request) → List Cache.SourceRead
  | [] => []
  | (source, request) :: rest =>
    s.readsBy source request ++ (s.after source request).sourceReads rest

theorem traced_after (traced : Traced s reads) (source : Source) (request : Request) :
    Traced (s.after source request) (reads ++ s.readsBy source request) := by
  obtain ⟨tried, attempts, kept⟩ := comesFrom_after s source request
  rw [readsBy, attempts, List.drop_left]
  exact kept reads traced

theorem traced_run (traced : Traced s reads) (requests : List (Source × Request)) :
    Traced (s.run requests) (reads ++ s.sourceReads requests) := by
  induction requests generalizing s reads with
  | nil => simpa [run, sourceReads] using traced
  | cons request rest ih =>
    obtain ⟨source, request⟩ := request
    have next := ih (traced_after traced source request)
    rwa [List.append_assoc] at next

theorem Traced.contains_iff (traced : Traced s reads) (p : Path) :
    s.cache.contains p ↔ ∃ q size, .read q size ∈ s.log ∧ q.Same p := by
  have told (q : Path) (size : Nat) : .read q size ∈ s.log ↔
      ∃ r ∈ reads, r.event? = some (.read q size) := by
    rw [← List.mem_filterMap, ← traced.events, List.mem_filter]
    simp [LogEvent.isRead]
  rw [traced.recorded.contains_iff]
  constructor
  · rintro ⟨r, member, same, succeeded⟩
    obtain ⟨size, event⟩ := Cache.SourceRead.succeeded_iff_event.mp succeeded
    exact ⟨r.path, size, (told _ _).mpr ⟨r, member, event⟩, same⟩
  · rintro ⟨q, size, logged, same⟩
    obtain ⟨r, member, event⟩ := (told q size).mp logged
    obtain rfl := Cache.SourceRead.path_of_event event
    exact ⟨r, member, same, Cache.SourceRead.succeeded_iff_event.mpr ⟨size, event⟩⟩

theorem Opened.traced (opened : Opened s) : Traced s [] := by
  obtain ⟨log, start, eq⟩ := opened.eq_fresh
  rw [eq]
  refine ⟨Cache.recorded_empty, ?_⟩
  rcases start with rfl | ⟨count, root, rfl⟩ <;> rfl

/-! ## Cached files -/

theorem members_after {p : Path} (member : s.members.contains p) (source : Source)
    (request : Request) : (s.after source request).members.contains p := by
  rw [contains_members, (after_fixed s source request).files] at *
  exact member.imp_right fun registered =>
    (isRegistered_run s [(source, request)] p).mpr (.inl registered)

theorem cached_after (within : ∀ p, s.cache.contains p → s.members.contains p) (source : Source)
    (request : Request) : ∀ p, (s.after source request).cache.contains p →
      (s.after source request).members.contains p := by
  intro p held
  apply members_after
  obtain ⟨content, held⟩ := Cache.contains_iff.mp held
  obtain ⟨reads, awaited, learnt⟩ := after_learnt s source request
  rcases (learnt p content).mp held with known | ⟨q, read, same, -⟩
  · exact within p (Cache.contains_iff.mpr ⟨content, known⟩)
  · have listed := (Cache.mem_unknown.mp (mem_unknown_members.mpr (awaited q read))).1
    exact PathMap.contains_iff_key.mpr ⟨q, listed, same⟩

/-- The cache holds files of the context alone. -/
theorem cached_run (opened : Opened s) (requests : List (Source × Request)) :
    ∀ p, (s.run requests).cache.contains p → (s.run requests).members.contains p := by
  have kept (s : Session) (within : ∀ p, s.cache.contains p → s.members.contains p) :
      ∀ p, (s.run requests).cache.contains p → (s.run requests).members.contains p := by
    induction requests generalizing s with
    | nil => exact within
    | cons request rest ih => exact ih _ (cached_after within request.1 request.2)
  refine kept s fun p held => ?_
  rw [opened.cache_eq] at held
  cases held

theorem cache_size_le (opened : Opened s) (requests : List (Source × Request)) :
    (s.run requests).cache.size ≤ ((s.files.map (·.path) ++
      (s.run requests).conversationFiles).map Path.key).toFinset.card := by
  rw [Cache.size, PathMap.size_eq_card]
  apply Finset.card_le_card
  intro key listed
  obtain ⟨p, cached, rfl⟩ := List.mem_map.mp (List.mem_toFinset.mp listed)
  have held := PathMap.contains_iff_key.mpr ⟨p, cached, Path.Same.refl p⟩
  have member := cached_run opened requests p held
  rw [contains_members, (run_fixed s requests).files] at member
  apply List.mem_toFinset.mpr
  rcases member with ⟨file, project, same⟩ | registered
  · have listed : file.path ∈ s.files.map (·.path) := List.mem_map.mpr ⟨file, project, rfl⟩
    exact List.mem_map.mpr ⟨file.path, List.mem_append_left _ listed, Path.same_iff_key_eq.mp same⟩
  · obtain ⟨q, listed, same⟩ := PathMap.contains_iff_key.mp registered
    exact List.mem_map.mpr ⟨q, List.mem_append_right _ listed, Path.same_iff_key_eq.mp same⟩

/-! ## Registration -/

/-- A session without its log. -/
def unlogged (s : Session) : Session := { s with log := [] }

theorem register_of_held (s : Session) {source : Source} {p : Path} (held : source.holds p) :
    s.register source p = (.ok true,
      { s with registered := s.registered.insert p (), log := s.log ++ [.registered p] }) := by
  rw [register, if_pos held]
  rfl

theorem register_of_missing (s : Session) {source : Source} {p : Path}
    (missing : ¬ source.holds p) :
    (s.register source p).2.unlogged = s.unlogged ∧
      (s.register source p).1 = match s.policy with
        | .warn => .ok false
        | .reject => .error (.missingConversationFile p) := by
  rw [register, if_neg missing]
  cases s.policy <;> exact ⟨rfl, rfl⟩

theorem register_changes_iff (s : Session) (source : Source) (p : Path) :
    (s.register source p).2.unlogged ≠ s.unlogged ↔ source.holds p ∧ ¬ s.isRegistered p := by
  by_cases held : source.holds p
  · rw [register_of_held s held]
    by_cases known : s.isRegistered p
    · have same : s.registered.insert p () = s.registered := PathMap.insert_of_contains known
      simp [unlogged, same, known]
    · refine iff_of_true (fun same => known ?_) ⟨held, known⟩
      have registered : s.registered.insert p () = s.registered := congrArg Session.registered same
      rw [isRegistered, ← registered, PathMap.contains_insert]
      exact .inl (Path.Same.refl p)
  · simp [register_of_missing s held, held]

theorem conversationFiles_run {p : Path} (listed : p ∈ s.conversationFiles)
    (requests : List (Source × Request)) : p ∈ (s.run requests).conversationFiles := by
  rw [conversationFiles, ← PathMap.spelling?_eq_self] at *
  rw [spelling?_run, listed, Option.some_or]

theorem run_accounted_for {s₀ : Session} (opened : Opened s₀) (requests : List (Source × Request)) :
    let s := s₀.run requests
    let reads := s₀.sourceReads requests
    (s.root = s₀.root ∧ s.files = s₀.files ∧ s.extractor = s₀.extractor ∧ s.policy = s₀.policy) ∧
    (∀ source p,
      let answer := (s.register source p).1
      let after := (s.register source p).2
      (after.unlogged ≠ s.unlogged ↔ source.holds p ∧ ¬ s.isRegistered p) ∧
      (source.holds p → answer = .ok true ∧
        after.unlogged = { s.unlogged with registered := after.registered } ∧
        ∀ q, q ∈ after.conversationFiles ↔
          q ∈ s.conversationFiles ∨ (q = p ∧ ¬ s.isRegistered p)) ∧
      (¬ source.holds p → after.unlogged = s.unlogged ∧ answer = match s.policy with
        | .warn => .ok false
        | .reject => .error (.missingConversationFile p))) ∧
    (∀ later, ∀ p ∈ s.conversationFiles, p ∈ (s.run later).conversationFiles) ∧
    (∀ p, s.cache.contains p → (∃ file ∈ s₀.files, file.path.Same p) ∨ s.isRegistered p) ∧
    s.cache.size ≤ ((s₀.files.map (·.path) ++ s.conversationFiles).map Path.key).toFinset.card ∧
    s.cache.attempts = reads.map (·.path) ∧
    s.log.filter LogEvent.isRead = reads.filterMap Cache.SourceRead.event? ∧
    (s.log.filter LogEvent.isRead).length = s.cache.size ∧
    ∀ p, s.cache.contains p ↔ ∃ q size, .read q size ∈ s.log ∧ q.Same p := by
  intro s reads
  have fixed : Fixed s₀ s := run_fixed s₀ requests
  have traced : Traced s reads := traced_run opened.traced requests
  refine ⟨⟨fixed.root, fixed.files, fixed.extractor, fixed.policy⟩, fun source p => ⟨?_, ?_, ?_⟩,
    fun later p listed => conversationFiles_run listed later, fun p held => ?_,
    cache_size_le opened requests, traced.recorded.attempts, traced.events, ?_,
    traced.contains_iff⟩
  · exact register_changes_iff s source p
  · intro held
    rw [register_of_held s held]
    exact ⟨rfl, rfl, fun q => PathMap.mem_keys_insert⟩
  · exact register_of_missing s
  · have member := cached_run opened requests p held
    rwa [contains_members, fixed.files] at member
  · rw [traced.events, traced.recorded.events_length]

/-- A path is refused, a file of the project is missing and read in a second go, and the other one
is registered in between under another spelling. -/
theorem retried_run_accounted_for :
    let part : Source := .ofTexts (.ofList [(.ofString "d/b.py", "y")])
    let all : Source := .ofTexts (.ofList [(.ofString "d/a.py", "x"), (.ofString "d/b.py", "y")])
    let s₀ : Session := {
      root := .ofString "d", extractor := .empty, policy := .reject
      files := [⟨.ofString "d/a.py", .python⟩, ⟨.ofString "d/b.py", .python⟩] }
    let s := s₀.run [(part, .register (.ofString "d/c.py")), (part, .generate),
      (part, .register (.ofString "d//b.py")), (all, .report)]
    s.log.filter LogEvent.isRead = [.read (.ofString "d/a.py") 1, .read (.ofString "d//b.py") 1] ∧
      s.cache.size = 2 ∧ s.conversationFiles = [.ofString "d//b.py"] ∧
      (s.register part (.ofString "d/c.py")).1 =
        .error (.missingConversationFile (.ofString "d/c.py")) ∧
      ∀ q, q ∈ (s.register part (.ofString "d/b.py")).2.conversationFiles ↔
        q ∈ s.conversationFiles := by
  intro part all s₀ s
  have opened : Opened s₀ := .assembled _ _ _ _
  obtain ⟨⟨-, -, -, policy⟩, registration, -, -, -, -, -, length, -⟩ :=
    run_accounted_for opened [(part, .register (.ofString "d/c.py")), (part, .generate),
      (part, .register (.ofString "d//b.py")), (all, .report)]
  have events : s.log.filter LogEvent.isRead =
      [.read (.ofString "d/a.py") 1, .read (.ofString "d//b.py") 1] := by decide +kernel
  have listed : s.conversationFiles = [.ofString "d//b.py"] := by decide +kernel
  have known : s.isRegistered (.ofString "d/b.py") := by decide +kernel
  have refused := ((registration part (.ofString "d/c.py")).2.2 (by decide)).2
  have kept := ((registration part (.ofString "d/b.py")).2.1 (by decide)).2.2
  rw [events] at length
  rw [policy] at refused
  exact ⟨events, length.symm, listed, refused, fun q =>
    (kept q).trans (or_iff_left fun foreign => foreign.2 known)⟩

end Session

end ProjectContext
