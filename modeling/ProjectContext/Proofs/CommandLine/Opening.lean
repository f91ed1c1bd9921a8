import ProjectContext.CommandLine.Rendering
import ProjectContext.Proofs.Session.Account
import ProjectContext.Proofs.Session.Starting

/-!
# Opening sessions

The arguments of a session name the files that the conversation mentions. Each of them is registered
or skipped with a warning, or, where the arguments are strict, the first that does not exist ends it
(`registerAll_eq`, `registerAll_refused`). Both ways lead to the same session where they lead to one
(`openSession_decided`). Neither does where the search is obstructed, though the root leads to a
directory (`long_directory_not_opened`).
-/

namespace ProjectContext

namespace Session

variable {s : Session} {source : Source} {paths before after : List Path} {p : Path}

def registrationEvent (source : Source) (p : Path) : LogEvent :=
  if source.holds p then .registered p else .missing p

/-- The session with the paths that exist registered and all of them logged. -/
def mentioning (s : Session) (source : Source) (paths : List Path) : Session :=
  { s with
    registered := s.registered.insertAll ((paths.filter source.holds).map fun p => (p, ()))
    log := s.log ++ paths.map (registrationEvent source) }

theorem warnings_of_registrations (source : Source) (paths : List Path) :
    (paths.map (registrationEvent source)).filter (·.level = .warn) =
      (paths.filter fun p => !source.holds p).map .missing := by
  induction paths with
  | nil => rfl
  | cons p paths ih =>
    rw [List.map_cons, registrationEvent]
    by_cases held : source.holds p
    · rw [if_pos held, List.filter_cons_of_neg Bool.false_ne_true, ih,
        List.filter_cons_of_neg (by simp [held])]
    · rw [if_neg held, List.filter_cons_of_pos rfl, ih,
        List.filter_cons_of_pos (by simp [held]), List.map_cons]

theorem mentioning_nil (s : Session) (source : Source) : s.mentioning source [] = s := by
  simp [mentioning, PathMap.insertAll]

theorem mentioning_of_held (held : source.holds p) :
    (s.register source p).2.mentioning source paths = s.mentioning source (p :: paths) := by
  rw [register_of_held s held]
  simp [mentioning, registrationEvent, held, PathMap.insertAll_cons]

theorem mentioning_of_skipped (missing : ¬ source.holds p) :
    (s.logged (.missing p)).mentioning source paths = s.mentioning source (p :: paths) := by
  simp [mentioning, registrationEvent, missing, logged]

theorem registerAll_of_held (held : source.holds p) :
    s.registerAll source (p :: paths) =
      (((s.register source p).2.registerAll source paths).1.map (· + 1),
        ((s.register source p).2.registerAll source paths).2) := by
  rw [registerAll, register_of_held s held]
  rfl

theorem registerAll_of_skipped (missing : ¬ source.holds p) (skips : s.policy = .warn) :
    s.registerAll source (p :: paths) = (s.logged (.missing p)).registerAll source paths := by
  have skipped : s.register source p = (.ok false, s.logged (.missing p)) := by
    rw [register, if_neg missing, skips]
  have counted (count : Except SessionError Nat) :
      count.map (fun n => if false then n + 1 else n) = count := by
    cases count <;> rfl
  rw [registerAll, skipped]
  exact Prod.ext (counted _) rfl

/-- Where no path that does not exist is refused, all are asked for. -/
theorem registerAll_eq (passes : s.policy = .warn ∨ ∀ p ∈ paths, source.holds p) :
    s.registerAll source paths = (.ok (paths.countP source.holds), s.mentioning source paths) := by
  induction paths generalizing s with
  | nil => rw [mentioning_nil, registerAll, List.countP_nil]
  | cons p paths ih =>
    by_cases held : source.holds p
    · have later : (s.register source p).2.policy = .warn ∨ ∀ q ∈ paths, source.holds q := by
        rw [register_of_held s held]
        exact passes.imp_right fun all q member => all q (List.mem_cons_of_mem _ member)
      rw [registerAll_of_held held, ih later, mentioning_of_held held, List.countP_cons_of_pos held]
      rfl
    · have skips : s.policy = .warn :=
        passes.resolve_right fun all => held (all p List.mem_cons_self)
      have later : (s.logged (.missing p)).policy = .warn := skips
      rw [registerAll_of_skipped held skips, ih (.inl later), mentioning_of_skipped held,
        List.countP_cons_of_neg held]

theorem registerAll_refused (strict : s.policy = .reject) (present : ∀ q ∈ before, source.holds q)
    (missing : ¬ source.holds p) :
    s.registerAll source (before ++ p :: after) =
      (.error (.missingConversationFile p), s.mentioning source before) := by
  induction before generalizing s with
  | nil =>
    have refused : s.register source p = (.error (.missingConversationFile p), s) := by
      rw [register, if_neg missing, strict]
    rw [List.nil_append, registerAll, refused, mentioning_nil]
  | cons q before ih =>
    have held : source.holds q := present q List.mem_cons_self
    have later : (s.register source q).2.policy = .reject := by
      rw [register_of_held s held]
      exact strict
    rw [List.cons_append, registerAll_of_held held,
      ih later fun r member => present r (List.mem_cons_of_mem _ member), mentioning_of_held held]
    rfl

end Session

namespace CommandLine

open FileSystem Session

variable {fs : FileSystem} {a : SessionArgs} {files : List DiscoveredFile} {extractor : Extractor}

namespace SessionArgs

/-- The session of the arguments before the conversation files are registered. -/
def scanned (a : SessionArgs) (files : List DiscoveredFile) (extractor : Extractor) : Session where
  root := a.path
  files := files
  extractor := extractor
  policy := a.config.policy
  log := [.scanning a.path, .discovered files.length a.path, .found files.length]

/-- The session of the arguments with all conversation files asked for. -/
def opened (a : SessionArgs) (fs : FileSystem) (files : List DiscoveredFile)
    (extractor : Extractor) : Session :=
  let s := (a.scanned files extractor).mentioning (Source.ofFiles fs) a.conversationFiles
  { s with log := s.log ++
      registrationEvents (a.conversationFiles.countP fs.pathExists) a.conversationFiles.length }

theorem openSession_of_scan_error {error : ScanError}
    (failed : fs.scan a.path a.gitignore a.convention.mode.fileKinds = .error error) :
    a.openSession fs = .error (.opening a.path (.scan error), [.scanning a.path]) := by
  obtain ⟨extractor, -, start⟩ := start_eq fs a.path a.config
  have failed : fs.scan a.path a.config.respectIgnoreFiles a.config.mode.fileKinds = .error error :=
    failed
  rw [failed] at start
  rw [openSession, start]

theorem openSession_of_scan
    (found : fs.scan a.path a.gitignore a.convention.mode.fileKinds = .ok files)
    (built : Extractor.ofMode a.convention.mode = .ok extractor) :
    a.openSession fs =
      match (a.scanned files extractor).registerAll (Source.ofFiles fs) a.conversationFiles with
      | (.error error, s) => .error (.session error, s.log)
      | (.ok count, s) =>
        .ok { s with log := s.log ++ registrationEvents count a.conversationFiles.length } := by
  obtain ⟨extractor', built', start⟩ := start_eq fs a.path a.config
  have found : fs.scan a.path a.config.respectIgnoreFiles a.config.mode.fileKinds = .ok files :=
    found
  have built : Extractor.ofMode a.config.mode = .ok extractor := built
  rw [built, Except.ok.injEq] at built'
  rw [found, ← built'] at start
  rw [openSession, start]
  rfl

theorem openSession_succeeds
    (found : fs.scan a.path a.gitignore a.convention.mode.fileKinds = .ok files)
    (built : Extractor.ofMode a.convention.mode = .ok extractor)
    (passes : a.strict = false ∨ ∀ p ∈ a.conversationFiles, fs.pathExists p) :
    a.openSession fs = .ok (a.opened fs files extractor) := by
  have policy : (a.scanned files extractor).policy = .warn ∨
      ∀ p ∈ a.conversationFiles, (Source.ofFiles fs).holds p := by
    refine passes.imp_left fun lenient => ?_
    simp [scanned, config, lenient]
  rw [openSession_of_scan found built, registerAll_eq policy]
  rfl

theorem openSession_refused
    (found : fs.scan a.path a.gitignore a.convention.mode.fileKinds = .ok files) (strict : a.strict)
    {p : Path} (first : a.conversationFiles.find? (fun q => !fs.pathExists q) = some p) :
    ∃ log, a.openSession fs = .error (.session (.missingConversationFile p), log) := by
  obtain ⟨absent, before, after, listed, others⟩ := List.find?_eq_some_iff_append.mp first
  obtain ⟨extractor, built⟩ := Extractor.ofMode_ok a.convention.mode
  have policy : (a.scanned files extractor).policy = .reject := by
    simp [scanned, config, strict]
  have missing : ¬ fs.pathExists p := by simpa using absent
  have present (q : Path) (member : q ∈ before) : fs.pathExists q := by
    simpa using others q member
  rw [openSession_of_scan found built, listed, registerAll_refused policy present missing]
  exact ⟨_, rfl⟩

theorem all_exist_of_opened
    (found : fs.scan a.path a.gitignore a.convention.mode.fileKinds = .ok files) (strict : a.strict)
    {s : Session} (opened : a.openSession fs = .ok s) :
    ∀ p ∈ a.conversationFiles, fs.pathExists p := by
  cases first : a.conversationFiles.find? (fun q => !fs.pathExists q) with
  | none => simpa using first
  | some p =>
    obtain ⟨log, refused⟩ := openSession_refused found strict first
    rw [opened] at refused
    cases refused

/-- Whatever the policy, an obstructed search keeps the session from opening. -/
theorem openSession_of_obstructed {location : Location} {children : List (Bytes × Entry)}
    (leads : fs.resolve a.path = .ok (location, .directory children))
    (obstructed : fs.Obstructed a.path a.gitignore location children) :
    ∃ message, ∀ strict, SessionArgs.openSession { a with strict } fs =
      .error (.opening a.path (.scan (.walk a.path message)), [.scanning a.path]) := by
  obtain ⟨message, failed⟩ : ∃ message, fs.scan a.path a.gitignore a.convention.mode.fileKinds =
      .error (.walk a.path message) := scan_of_obstructed leads obstructed
  exact ⟨message, fun strict => openSession_of_scan_error (a := { a with strict }) failed⟩

/-! ## What the session knows and has logged -/

theorem opened_spelling? (p : Path) :
    (a.opened fs files extractor).registered.spelling? p =
      p.firstIn (a.conversationFiles.filter fs.pathExists) := by
  refine (PathMap.spelling?_insertAll .empty _ p).trans ?_
  rw [List.map_map]
  exact congrArg p.firstIn (List.map_id _)

theorem mem_opened_conversationFiles {p : Path} :
    p ∈ (a.opened fs files extractor).conversationFiles ↔
      p.firstIn (a.conversationFiles.filter fs.pathExists) = some p := by
  rw [Session.conversationFiles, ← PathMap.spelling?_eq_self, opened_spelling?]

theorem opened_isRegistered {p : Path} : (a.opened fs files extractor).isRegistered p ↔
    ∃ q ∈ a.conversationFiles.filter fs.pathExists, q.Same p := by
  rw [isRegistered, PathMap.contains_eq_isSome_spelling?, opened_spelling?, Path.firstIn_isSome]

theorem opened_log : (a.opened fs files extractor).log =
    [.scanning a.path, .discovered files.length a.path, .found files.length] ++
      a.conversationFiles.map (registrationEvent (Source.ofFiles fs)) ++
      registrationEvents (a.conversationFiles.filter fs.pathExists).length
        a.conversationFiles.length := by
  rw [← List.countP_eq_length_filter]
  rfl

theorem opened_warnings : (a.opened fs files extractor).log.filter (·.level = .warn) =
    (a.conversationFiles.filter fun p => !fs.pathExists p).map .missing := by
  have counted (count total : Nat) :
      (registrationEvents count total).filter (·.level = .warn) = [] := by
    rw [registrationEvents]
    split <;> rfl
  rw [opened_log, List.filter_append, List.filter_append, warnings_of_registrations, counted,
    List.append_nil]
  rfl

end SessionArgs

/-- Without `strict` a session opens if the root leads to a directory that can be searched, and with
it if all the paths asked for exist as well; the two sessions differ in their policy alone. -/
theorem openSession_decided (fs : FileSystem) (a : SessionArgs) :
    let lenient := SessionArgs.openSession { a with strict := false } fs
    let strict := SessionArgs.openSession { a with strict := true } fs
    let searchable := ∃ location children, fs.resolve a.path = .ok (location, .directory children) ∧
      ¬ fs.Obstructed a.path a.gitignore location children
    let existing := a.conversationFiles.filter fs.pathExists
    ((∃ s, lenient = .ok s) ↔ searchable) ∧
    (∀ s, lenient = .ok s →
      (∀ p, s.isRegistered p ↔ ∃ q ∈ existing, q.Same p) ∧
      (∀ p, p ∈ s.conversationFiles ↔ p.firstIn existing = some p) ∧
      s.log.filter (·.level = .warn) =
        (a.conversationFiles.filter fun p => !fs.pathExists p).map .missing ∧
      s.log = [.scanning a.path, .discovered s.files.length a.path, .found s.files.length] ++
        a.conversationFiles.map
          (fun p => if fs.pathExists p then .registered p else .missing p) ++
        if a.conversationFiles = [] then []
        else [.registeredOf existing.length a.conversationFiles.length]) ∧
    ((∃ s, strict = .ok s) ↔ searchable ∧ ∀ p ∈ a.conversationFiles, fs.pathExists p) ∧
    (∀ s, strict = .ok s → ∃ t, lenient = .ok t ∧ s = { t with policy := .reject }) ∧
    (searchable → ∀ p, a.conversationFiles.find? (fun q => !fs.pathExists q) = some p →
      ∃ log, strict = .error (.session (.missingConversationFile p), log)) ∧
    ∀ location children, fs.resolve a.path = .ok (location, .directory children) →
      fs.Obstructed a.path a.gitignore location children →
      ∃ message log, lenient = .error (.opening a.path (.scan (.walk a.path message)), log) ∧
        strict = .error (.opening a.path (.scan (.walk a.path message)), log) := by
  intro lenient strict searchable existing
  have obstacle (location : Location) (children : List (Bytes × Entry))
      (leads : fs.resolve a.path = .ok (location, .directory children))
      (obstructed : fs.Obstructed a.path a.gitignore location children) :
      ∃ message log, lenient = .error (.opening a.path (.scan (.walk a.path message)), log) ∧
        strict = .error (.opening a.path (.scan (.walk a.path message)), log) := by
    obtain ⟨message, failed⟩ := SessionArgs.openSession_of_obstructed leads obstructed
    exact ⟨message, _, failed false, failed true⟩
  have decided : (∃ files, fs.scan a.path a.gitignore a.convention.mode.fileKinds = .ok files) ↔
      searchable := scan_succeeds_iff
  cases found : fs.scan a.path a.gitignore a.convention.mode.fileKinds with
  | error error =>
    have apart : ¬ searchable := by
      rw [← decided, found]
      exact nofun
    have first : lenient = .error _ :=
      SessionArgs.openSession_of_scan_error (a := { a with strict := false }) found
    have second : strict = .error _ :=
      SessionArgs.openSession_of_scan_error (a := { a with strict := true }) found
    exact ⟨by simp [first, apart], by simp [first], by simp [second, apart], by simp [second],
      fun reachable => absurd reachable apart, obstacle⟩
  | ok files =>
    have reachable : searchable := decided.mp ⟨files, found⟩
    obtain ⟨extractor, built⟩ := Extractor.ofMode_ok a.convention.mode
    have opens : lenient = .ok (SessionArgs.opened { a with strict := false } fs files extractor) :=
      SessionArgs.openSession_succeeds (a := { a with strict := false }) found built (.inl rfl)
    have strictly (all : ∀ p ∈ a.conversationFiles, fs.pathExists p) :
        strict = .ok (SessionArgs.opened { a with strict := true } fs files extractor) :=
      SessionArgs.openSession_succeeds (a := { a with strict := true }) found built (.inr all)
    have complete (s : Session) (opened : strict = .ok s) :
        ∀ p ∈ a.conversationFiles, fs.pathExists p :=
      SessionArgs.all_exist_of_opened (a := { a with strict := true }) found rfl opened
    refine ⟨⟨fun _ => reachable, fun _ => ⟨_, opens⟩⟩, fun s opened => ?_,
      ⟨fun ⟨s, opened⟩ => ⟨reachable, complete s opened⟩, fun ⟨_, all⟩ => ⟨_, strictly all⟩⟩,
      fun s opened => ⟨_, opens, ?_⟩, fun _ p =>
        SessionArgs.openSession_refused (a := { a with strict := true }) found rfl, obstacle⟩
    · rw [opens, Except.ok.injEq] at opened
      subst opened
      refine ⟨fun p => SessionArgs.opened_isRegistered,
        fun p => SessionArgs.mem_opened_conversationFiles, SessionArgs.opened_warnings, ?_⟩
      rw [SessionArgs.opened_log, registrationEvents]
      simp only [List.length_eq_zero_iff]
      rfl
    · rw [strictly (complete s opened), Except.ok.injEq] at opened
      rw [← opened]
      rfl

def singleFile : FileSystem where
  top := [(.ofString "d", .directory [(.ofString "a.py", .file [])])]

/-- The file is mentioned twice, under two spellings, and once is a file that does not exist. -/
def mentioningTwice : SessionArgs where
  path := .ofString "d"
  conversationFiles := [.ofString "d//a.py", .ofString "e", .ofString "d/a.py"]

theorem mentioningTwice_decided :
    (∃ s, mentioningTwice.openSession singleFile = .ok s ∧
      Path.ofString "d//a.py" ∈ s.conversationFiles ∧
      Path.ofString "d/a.py" ∉ s.conversationFiles ∧ .registeredOf 2 3 ∈ s.log) ∧
    ∃ log, SessionArgs.openSession { mentioningTwice with strict := true } singleFile =
      .error (.session (.missingConversationFile (.ofString "e")), log) := by
  obtain ⟨opens, opened, -, -, refuses, -⟩ := openSession_decided singleFile mentioningTwice
  have reachable : ∃ location children,
      singleFile.resolve mentioningTwice.path = .ok (location, .directory children) ∧
        ¬ singleFile.Obstructed mentioningTwice.path false location children := by
    refine ⟨_, _, rfl, ?_⟩
    rintro ⟨names, ⟨inner, reached⟩, -⟩
    cases reached <;> simp_all
  refine ⟨?_, refuses reachable _ (by decide +kernel)⟩
  obtain ⟨s, lenient⟩ := opens.mpr reachable
  obtain ⟨-, keys, -, log⟩ := opened s lenient
  refine ⟨s, lenient, (keys _).mpr (by decide +kernel), ?_, ?_⟩
  · rw [keys]
    decide +kernel
  · rw [log, if_neg (by decide)]
    exact List.mem_append_right _ (List.mem_singleton.mpr (by decide +kernel))

/-- The root of the arguments leads to a directory, but below it is one whose path is too long. -/
theorem long_directory_not_opened :
    (longNamedProject []).resolve longRoot =
      .ok ([.ofString "d"], .directory (longNamedChildren [])) ∧
    SessionArgs.openSession { path := longRoot } (longNamedProject []) =
      .error (.opening longRoot (.scan (.walk longRoot
        (Unopened.message ⟨longRoot.join longName, .nameTooLong⟩))), [.scanning longRoot]) :=
  ⟨longRoot_resolve [], SessionArgs.openSession_of_scan_error (longNamedProject_fails [] _)⟩

end CommandLine

end ProjectContext
