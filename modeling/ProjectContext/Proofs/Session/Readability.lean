import ProjectContext.Proofs.FileTree.Spelling
import ProjectContext.Proofs.Session.Outcome
import ProjectContext.Proofs.Session.Starting
import ProjectContext.Proofs.Text.Utf8

/-!
# Sessions over files that stay

A path `HoldsText` if it leads to a file whose bytes are UTF-8. A session over the files in which it
was started can generate its context exactly when all files of the context hold text; where the
search is obstructed, there is no session (`generation_needs_text`). A file that the search finds is
there to be read, with one exception: its path, which is the root with names behind it, may have
become longer than a lookup allows (`long_root_hides_content`).
-/

namespace ProjectContext

namespace FileSystem

open Entry

variable {fs : FileSystem} {root p q : Path} {respectIgnoreFiles : Bool} {kinds : List FileKind}
  {files : List DiscoveredFile}

/-- The path leads to a file whose bytes are the encoding of a text. -/
def HoldsText (fs : FileSystem) (p : Path) : Prop :=
  ∃ location text, fs.resolve p = .ok (location, .file (Bytes.ofString text))

theorem readText_of_file {location : Location} {content : Bytes}
    (leads : fs.resolve p = .ok (location, .file content)) :
    fs.readText p = match Utf8.decode? content with
      | some text => .ok text
      | none => .error .notText := by
  rw [readText, readBytes, leads]
  rfl

theorem readText_of_directory {location : Location} {children : List (Bytes × Entry)}
    (leads : fs.resolve p = .ok (location, .directory children)) :
    fs.readText p = .error .isDirectory := by
  rw [readText, readBytes, leads]
  rfl

theorem readText_of_error {error : AccessError} (fails : fs.resolve p = .error error) :
    fs.readText p = .error error := by
  rw [readText, readBytes, fails]
  rfl

theorem readText_eq_ok {text : String} : fs.readText p = .ok text ↔
    ∃ location, fs.resolve p = .ok (location, .file (Bytes.ofString text)) := by
  cases leads : fs.resolve p with
  | error error => simp [readText_of_error leads]
  | ok found =>
    obtain ⟨location, e⟩ := found
    cases e with
    | directory children => simp [readText_of_directory leads]
    | link target => simp [readText, readBytes, leads, bind, Except.bind]
    | file content =>
      have decoded (text : String) : Utf8.decode? content = some text ↔
          content = Bytes.ofString text := Utf8.decode?_eq_some
      rw [readText_of_file leads]
      cases read : Utf8.decode? content with
      | none => simp [← decoded, read]
      | some other => simp [← decoded, read]

theorem holdsText_iff : fs.HoldsText p ↔ ∃ text, fs.readText p = .ok text := by
  simp only [HoldsText, readText_eq_ok]
  exact exists_comm

/-- What one spelling of a path holds, all spellings that exist hold. -/
theorem HoldsText.of_same (text : fs.HoldsText q) (same : p.Same q) (there : fs.pathExists p) :
    fs.HoldsText p := by
  obtain ⟨found, leads⟩ := pathExists_iff.mp there
  obtain ⟨location, text, leads'⟩ := text
  rw [resolve_eq_of_same same leads leads'] at leads
  exact ⟨location, text, leads⟩

/-! ## Files that a search finds -/

theorem discovered_cases (found : fs.scan root respectIgnoreFiles kinds = .ok files)
    {file : DiscoveredFile} (member : file ∈ files) :
    (∃ location content, fs.resolve file.path = .ok (location, .file content)) ∨
      maxPath < file.path.bytes.length ∧ fs.resolve file.path = .error .nameTooLong := by
  obtain ⟨location, children, names, e, leads, reached, spelled, lists⟩ :=
    listed_of_scan found member
  cases e with
  | directory inner => exact lists.elim
  | link target => exact .inl lists
  | file content =>
    rw [spelled]
    by_cases long : maxPath < (root.join (Path.relative names)).bytes.length
    · exact .inr ⟨long, resolve_join_of_long leads reached long⟩
    · exact .inl ⟨_, content, resolve_join leads reached nofun (Nat.not_lt.mp long)⟩

theorem discovered_exists (found : fs.scan root respectIgnoreFiles kinds = .ok files)
    {file : DiscoveredFile} (member : file ∈ files)
    (short : file.path.bytes.length ≤ maxPath) :
    ∃ location content, fs.resolve file.path = .ok (location, .file content) := by
  rcases discovered_cases found member with there | ⟨long, -⟩
  · exact there
  · exact absurd short long.not_ge

end FileSystem

namespace Session

open Entry FileSystem

variable {fs : FileSystem} {root : Path} {config : Config} {s₀ s : Session}

theorem start_files (started : Session.start fs root config = .ok s₀) :
    fs.scan root config.respectIgnoreFiles config.mode.fileKinds = .ok s₀.files := by
  obtain ⟨extractor, -, eq⟩ := start_eq fs root config
  rw [eq] at started
  cases found : fs.scan root config.respectIgnoreFiles config.mode.fileKinds with
  | error error => simp [found] at started
  | ok files =>
    simp only [found, Except.ok.injEq] at started
    rw [← started]

/-! ## What the cache holds -/

/-- Each content in the cache is one that a spelling of its path has given. -/
def Drawn (s : Session) (source : Source) : Prop :=
  ∀ p content, s.cache.get? p = some content → ∃ q text, q.Same p ∧ source.read q = .ok text

theorem drawn_run {source : Source} (drawn : Drawn s source) (requests : List Request) :
    Drawn (s.run (requests.map (source, ·))) source := by
  induction requests generalizing s with
  | nil => exact drawn
  | cons request rest ih =>
    refine ih fun p content held => ?_
    obtain ⟨reads, -, learnt⟩ := after_learnt s source request
    rcases (learnt p content).mp held with known | ⟨q, -, same, text, given, -⟩
    · exact drawn p content known
    · exact ⟨q, text, same, given⟩

/-- A path that leads to a directory has no content, whatever its other spellings give. -/
theorem Drawn.unavailable (drawn : Drawn s (Source.ofFiles fs)) {p : Path} {location : Location}
    {children : List (Bytes × Entry)} (leads : fs.resolve p = .ok (location, .directory children)) :
    s.available (Source.ofFiles fs) p = .error .isDirectory := by
  cases known : s.cache.get? p with
  | none =>
    have refused : (Source.ofFiles fs).read p = .error .isDirectory := readText_of_directory leads
    rw [available_of_unknown known, refused]
    rfl
  | some content =>
    obtain ⟨q, text, same, given⟩ := drawn p content known
    obtain ⟨location', leads'⟩ := readText_eq_ok.mp given
    have equal := resolve_eq_of_same same leads' leads
    cases equal

/-! ## Registrations -/

/-- The requests to register some paths over files that stay. -/
def registrations (fs : FileSystem) (paths : List Path) : List (Source × Request) :=
  paths.map fun p => (Source.ofFiles fs, .register p)

theorem accepted_registrations (fs : FileSystem) (paths : List Path) :
    accepted (registrations fs paths) = paths.filter fs.pathExists := by
  induction paths with
  | nil => rfl
  | cons p paths ih =>
    rw [registrations, List.map_cons]
    cases there : fs.pathExists p with
    | true =>
      rw [accepted_register there, List.filter_cons_of_pos there]
      exact congrArg (p :: ·) ih
    | false =>
      rw [accepted_missing there, List.filter_cons_of_neg (by simp [there])]
      exact ih

theorem cache_registrations (s : Session) (fs : FileSystem) (paths : List Path) :
    (s.run (registrations fs paths)).cache = s.cache := by
  induction paths generalizing s with
  | nil => rfl
  | cons p paths ih =>
    have first : (s.register (Source.ofFiles fs) p).2.cache = s.cache := by
      by_cases held : (Source.ofFiles fs).holds p
      · rw [register, if_pos held]
        rfl
      · obtain ⟨log, eq⟩ := register_missing s (by simpa using held)
        rw [eq]
    exact (ih _).trans first

/-- The paths of the context are the accepted ones and the discovered ones, as first spelled. -/
theorem mem_members_registrations (opened : Opened s₀) (paths : List Path) {p : Path} :
    p ∈ (s₀.run (registrations fs paths)).members.keys ↔
      p.firstIn (paths.filter fs.pathExists ++ s₀.files.map (·.path)) = some p := by
  have empty : s₀.registered.spelling? p = none := by
    rw [opened.registered_eq]
    rfl
  rw [← PathMap.spelling?_eq_self, spelling?_members, spelling?_run, empty, Option.none_or,
    accepted_registrations, (run_fixed s₀ _).files, Path.firstIn, Path.firstIn, Path.firstIn,
    List.find?_append]

theorem available_iff_holdsText (unread : s.cache = {}) (p : Path) :
    (∃ content, s.available (Source.ofFiles fs) p = .ok content) ↔ fs.HoldsText p := by
  have unknown : s.cache.get? p = none := by
    rw [unread]
    rfl
  have read : (Source.ofFiles fs).read p = fs.readText p := rfl
  rw [available_of_unknown unknown, read, holdsText_iff]
  cases fs.readText p <;> simp [Except.map]

theorem unavailable_of_unread (unread : s.cache = {}) {p : Path} {error : AccessError}
    (refused : s.available (Source.ofFiles fs) p = .error error) :
    fs.readText p = .error error := by
  have unknown : s.cache.get? p = none := by
    rw [unread]
    rfl
  have read : (Source.ofFiles fs).read p = fs.readText p := rfl
  rw [available_of_unknown unknown, read] at refused
  cases given : fs.readText p with
  | ok text => simp [given, Except.map] at refused
  | error other => simpa [given, Except.map] using refused

theorem size_generated {files : List DiscoveredFile} {source : Source} {m : ContextMap}
    (ascends : files.Pairwise fun a b => a.path.key < b.path.key) (listed : s.files = files)
    (unregistered : s.registered = .empty) (made : (s.generate source).1 = .ok m) :
    m.size = files.length := by
  have members : s.members.entries = files.map fun file => (file.path, some file.kind) := by
    rw [members, listed, conversationFiles, unregistered]
    exact PathMap.entries_ofList (List.pairwise_map.mpr ascends)
  have size : m.size = m.keys.length := by simp [PathMap.size, PathMap.keys]
  rw [size, (generate_ok made).1, PathMap.keys, members]
  simp

theorem firstIn_of_mem {paths : List Path} {p : Path} (member : p ∈ paths) :
    ∃ q ∈ paths, q.Same p ∧ p.firstIn paths = some q ∧ q.firstIn paths = some q := by
  obtain ⟨q, first⟩ := Option.isSome_iff_exists.mp
    (Path.firstIn_isSome.mpr ⟨p, member, Path.Same.refl p⟩)
  have same : q.Same p := by simpa using List.find?_some first
  have equal : (fun r : Path => decide (r.Same q)) = fun r => decide (r.Same p) := funext fun r =>
    decide_eq_decide.mpr ⟨fun here => here.trans same, fun here => here.trans same.symm⟩
  refine ⟨q, List.mem_of_find?_eq_some first, same, first, ?_⟩
  rw [Path.firstIn, equal]
  exact first

/-! ## Generation -/

theorem generate_registered_succeeds_iff (started : Session.start fs root config = .ok s₀)
    (paths : List Path) :
    (∃ m, ((s₀.run (registrations fs paths)).generate (Source.ofFiles fs)).1 = .ok m) ↔
      ∀ p, p.firstIn (paths.filter fs.pathExists ++ s₀.files.map (·.path)) = some p →
        fs.HoldsText p := by
  have opened : Opened s₀ := .discovered started
  have unread : (s₀.run (registrations fs paths)).cache = {} :=
    (cache_registrations s₀ fs paths).trans opened.cache_eq
  simp only [generate_succeeds_iff, mem_members_registrations opened,
    available_iff_holdsText unread]

theorem generate_registered_fails (started : Session.start fs root config = .ok s₀)
    (paths : List Path) {failure : ReadFailure}
    (failed : ((s₀.run (registrations fs paths)).generate (Source.ofFiles fs)).1 = .error failure) :
    failure.path ∈ paths.filter fs.pathExists ++ s₀.files.map (·.path) ∧
      fs.readText failure.path = .error failure.error ∧
      ∀ p, p.firstIn (paths.filter fs.pathExists ++ s₀.files.map (·.path)) = some p →
        ¬ fs.HoldsText p → failure.path.key ≤ p.key := by
  have opened : Opened s₀ := .discovered started
  have unread : (s₀.run (registrations fs paths)).cache = {} :=
    (cache_registrations s₀ fs paths).trans opened.cache_eq
  rcases generate_outcome (s₀.run (registrations fs paths)) (Source.ofFiles fs) with
    ⟨m, made, -⟩ | ⟨failure', failed', listed, refused, first⟩
  · rw [made] at failed
    cases failed
  · rw [failed', Except.error.injEq] at failed
    subst failed
    rw [mem_members_registrations opened] at listed
    refine ⟨List.mem_of_find?_eq_some listed, unavailable_of_unread unread refused,
      fun p spelled bad => not_lt.mp fun less => ?_⟩
    have given := first p ((mem_members_registrations opened paths).mpr spelled) less
    exact bad ((available_iff_holdsText unread p).mp given)

theorem exists_of_discovered (started : Session.start fs root config = .ok s₀)
    (short : ∀ file ∈ s₀.files, file.path.bytes.length ≤ maxPath) {paths : List Path} {p : Path}
    (member : p ∈ paths.filter fs.pathExists ++ s₀.files.map (·.path)) : fs.pathExists p := by
  rcases List.mem_append.mp member with accepted | discovered
  · exact (List.mem_filter.mp accepted).2
  · obtain ⟨file, listed, rfl⟩ := List.mem_map.mp discovered
    obtain ⟨location, content, leads⟩ :=
      discovered_exists (start_files started) listed (short file listed)
    exact pathExists_iff.mpr ⟨_, leads⟩

/-- A file that was discovered and cannot be read is no text, or its path is too long. -/
theorem unreadable_discovered (started : Session.start fs root config = .ok s₀)
    {file : DiscoveredFile} (listed : file ∈ s₀.files) {error : AccessError}
    (refused : fs.readText file.path = .error error) :
    (∃ location content, fs.resolve file.path = .ok (location, .file content) ∧
      (∀ text, content ≠ Bytes.ofString text) ∧ error = .notText) ∨
    maxPath < file.path.bytes.length ∧ error = .nameTooLong := by
  rcases discovered_cases (start_files started) listed with
    ⟨location, content, leads⟩ | ⟨long, fails⟩
  · left
    rw [readText_of_file leads] at refused
    cases read : Utf8.decode? content with
    | some text => simp [read] at refused
    | none =>
      refine ⟨location, content, leads, fun text encoded => ?_,
        by simpa [read, eq_comm] using refused⟩
      rw [Utf8.decode?_eq_some.mpr encoded] at read
      cases read
  · right
    rw [readText_of_error fails, Except.error.injEq] at refused
    exact ⟨long, refused.symm⟩

theorem generate_fails_of_directory (started : Session.start fs root config = .ok s₀)
    {paths : List Path} {p : Path} (asked : p ∈ paths) {location : Location}
    {children : List (Bytes × Entry)} (leads : fs.resolve p = .ok (location, .directory children))
    (later : List Request) :
    ∃ failure, (((s₀.run (registrations fs paths)).run
      (later.map (Source.ofFiles fs, ·))).generate (Source.ofFiles fs)).1 = .error failure := by
  have opened : Opened s₀ := .discovered started
  let requests := registrations fs paths ++ later.map (Source.ofFiles fs, ·)
  have joined : (s₀.run (registrations fs paths)).run (later.map (Source.ofFiles fs, ·)) =
      s₀.run requests := List.foldl_append.symm
  have drawn : Drawn (s₀.run requests) (Source.ofFiles fs) := by
    rw [← joined]
    refine drawn_run (fun q content held => ?_) later
    rw [cache_registrations, opened.cache_eq] at held
    cases held
  have member : p ∈ accepted requests := mem_accepted.mpr ⟨Source.ofFiles fs,
    List.mem_append_left _ (List.mem_map.mpr ⟨p, asked, rfl⟩), pathExists_iff.mpr ⟨_, leads⟩⟩
  -- The context has the directory in its first accepted spelling, which leads there as well.
  obtain ⟨q, accepted, same, -, first⟩ := firstIn_of_mem member
  obtain ⟨source, requested, held⟩ := mem_accepted.mp accepted
  have files : source = Source.ofFiles fs := by
    rcases List.mem_append.mp requested with here | here
    · obtain ⟨_, -, equal⟩ := List.mem_map.mp here
      exact (Prod.mk.inj equal).1.symm
    · obtain ⟨_, -, equal⟩ := List.mem_map.mp here
      exact (Prod.mk.inj equal).1.symm
  rw [files] at held
  obtain ⟨found, leads'⟩ := pathExists_iff.mp held
  rw [resolve_eq_of_same same leads' leads] at leads'
  have listed : q ∈ (s₀.run requests).members.keys := by
    rw [← PathMap.spelling?_eq_self, spelling?_members, spelling?_run, opened.registered_eq, first]
    rfl
  rw [joined]
  cases made : ((s₀.run requests).generate (Source.ofFiles fs)).1 with
  | error failure => exact ⟨failure, rfl⟩
  | ok m =>
    obtain ⟨content, given⟩ := (generate_succeeds_iff _ _).mp ⟨m, made⟩ q listed
    rw [drawn.unavailable leads'] at given
    cases given

/-- Where nothing obstructs the search, a session starts whose context can be generated if all its
paths hold text; else it starts nowhere. The failure of a generation names the least path that holds
none. -/
theorem generation_needs_text {location : Location} {children : List (Bytes × Entry)}
    (leads : fs.resolve root = .ok (location, .directory children)) (config : Config)
    (paths : List Path) :
    let source := Source.ofFiles fs
    let accepted := paths.filter fs.pathExists
    let obstructed := fs.Obstructed root config.respectIgnoreFiles location children
    (obstructed → ∃ message, Session.start fs root config = .error (.scan (.walk root message))) ∧
    (¬ obstructed → ∃ s₀, Session.start fs root config = .ok s₀ ∧
      let s := s₀.run (registrations fs paths)
      let files := accepted ++ s₀.files.map (·.path)
      ((∃ m, (s.generate source).1 = .ok m) ↔
        ∀ p, p.firstIn files = some p → fs.HoldsText p) ∧
      (∀ failure, (s.generate source).1 = .error failure →
        failure.path ∈ files ∧ ¬ fs.HoldsText failure.path ∧
          ∀ p, p.firstIn files = some p → ¬ fs.HoldsText p → failure.path.key ≤ p.key) ∧
      ((∀ file ∈ s₀.files, file.path.bytes.length ≤ maxPath) →
        ((∃ m, (s.generate source).1 = .ok m) ↔ ∀ p ∈ files, fs.HoldsText p) ∧
        ∀ failure, (s.generate source).1 = .error failure →
          ∀ p ∈ files, ¬ fs.HoldsText p → failure.path.key ≤ p.key) ∧
      (∀ file ∈ s₀.files, file.path.bytes.length ≤ maxPath →
        ∃ location content, fs.resolve file.path = .ok (location, .file content)) ∧
      (∀ m, (s₀.generate source).1 = .ok m → m.size = s₀.files.length) ∧
      (∀ failure, (s₀.generate source).1 = .error failure →
        ∃ file ∈ s₀.files, file.path = failure.path ∧
          ((∃ location content, fs.resolve file.path = .ok (location, .file content) ∧
            (∀ text, content ≠ Bytes.ofString text) ∧ failure.error = .notText) ∨
          maxPath < file.path.bytes.length ∧ failure.error = .nameTooLong)) ∧
      ∀ p ∈ accepted, ∀ location children, fs.resolve p = .ok (location, .directory children) →
        ∀ later : List Request,
          ∃ failure, ((s.run (later.map (source, ·))).generate source).1 = .error failure) := by
  intro source accepted obstructed
  refine ⟨start_of_obstructed leads, fun clear => ?_⟩
  obtain ⟨s₀, started⟩ := started_iff.mpr ⟨location, children, leads, clear⟩
  refine ⟨s₀, started, ?_⟩
  intro s files
  have succeeds := generate_registered_succeeds_iff started paths
  have fails (failure : ReadFailure) (failed : (s.generate source).1 = .error failure) :=
    generate_registered_fails started paths failed
  have spelled (short : ∀ file ∈ s₀.files, file.path.bytes.length ≤ maxPath) (p : Path)
      (member : p ∈ files) (bad : ¬ fs.HoldsText p) :
      ∃ q, q.firstIn files = some q ∧ ¬ fs.HoldsText q ∧ q.key = p.key := by
    obtain ⟨q, -, same, -, first⟩ := firstIn_of_mem member
    have there := exists_of_discovered started short member
    exact ⟨q, first, fun text => bad (text.of_same same.symm there), Path.same_iff_key_eq.mp same⟩
  refine ⟨succeeds, fun failure failed => ?_,
    fun short => ⟨?_, fun failure failed p member bad => ?_⟩,
    fun file => discovered_exists (start_files started), fun m made => ?_, fun failure failed => ?_,
    fun p member location children leads => generate_fails_of_directory started
      (List.mem_of_mem_filter member) leads⟩
  · obtain ⟨member, refused, least⟩ := fails failure failed
    refine ⟨member, fun text => ?_, least⟩
    obtain ⟨text, given⟩ := holdsText_iff.mp text
    rw [refused] at given
    cases given
  · refine succeeds.trans ⟨fun all p member => ?_, fun all p first => ?_⟩
    · by_contra bad
      obtain ⟨q, first, bad, -⟩ := spelled short p member bad
      exact bad (all q first)
    · exact all p (List.mem_of_find?_eq_some first)
  · obtain ⟨q, first, bad, equal⟩ := spelled short p member bad
    rw [← equal]
    exact (fails failure failed).2.2 q first bad
  · have opened : Opened s₀ := .discovered started
    exact size_generated (scan_ascends (start_files started)) rfl opened.registered_eq made
  · obtain ⟨member, refused, -⟩ := generate_registered_fails started [] failed
    obtain ⟨file, listed, equal⟩ := List.mem_map.mp member
    refine ⟨file, listed, equal, unreadable_discovered started listed ?_⟩
    rw [equal]
    exact refused

/-- A text, a file of the project that is no text, and a link. -/
def mixedProject : FileSystem where
  top := [(.ofString "d", .directory [(.ofString "a.py", .file (.ofString "x")),
    (.ofString "b.py", .file [0xFF]), (.ofString "c.py", .link (.ofString "a.py"))])]

def mixedChildren : List (Bytes × Entry) :=
  [(.ofString "a.py", .file (.ofString "x")), (.ofString "b.py", .file [0xFF]),
    (.ofString "c.py", .link (.ofString "a.py"))]

theorem mixedProject_clear :
    ¬ mixedProject.Obstructed (.ofString "d") false [.ofString "d"] mixedChildren := by
  rintro ⟨names, ⟨inner, reached⟩, -⟩
  cases reached <;> simp_all [mixedChildren]

theorem mixedProject_scan :
    mixedProject.scan (.ofString "d") false FileKind.standard = .ok [⟨.ofString "d/a.py", .python⟩,
      ⟨.ofString "d/b.py", .python⟩, ⟨.ofString "d/c.py", .python⟩] := by
  have resolved : mixedProject.resolve (.ofString "d") = .ok ([.ofString "d"],
    .directory mixedChildren) := rfl
  have ascends : [DiscoveredFile.mk (.ofString "d/a.py") .python, ⟨.ofString "d/b.py", .python⟩,
      ⟨.ofString "d/c.py", .python⟩].Pairwise fun a b => a.path.key < b.path.key := by
    decide +kernel
  rw [scan_of_directory resolved]
  exact congrArg Except.ok (DiscoveredFile.sort_of_ascending ascends)

/-- One file is registered under another spelling, and the second file of the project is no text. -/
theorem mixedProject_fails :
    ∃ s₀, Session.start mixedProject (.ofString "d") {} = .ok s₀ ∧
      s₀.files.map (·.path) = [.ofString "d/a.py", .ofString "d/b.py", .ofString "d/c.py"] ∧
      ∃ failure, ((s₀.run (registrations mixedProject [.ofString "d//a.py", .ofString "e"])).generate
          (Source.ofFiles mixedProject)).1 = .error failure ∧
        failure.path.key ≤ (Path.ofString "d/b.py").key := by
  have leads : mixedProject.resolve (.ofString "d") = .ok ([.ofString "d"],
    .directory mixedChildren) := rfl
  obtain ⟨-, starts⟩ := generation_needs_text leads {} [.ofString "d//a.py", .ofString "e"]
  obtain ⟨s₀, started, -, -, least, -⟩ := starts mixedProject_clear
  have files : s₀.files = [⟨.ofString "d/a.py", .python⟩, ⟨.ofString "d/b.py", .python⟩,
      ⟨.ofString "d/c.py", .python⟩] :=
    Except.ok.inj ((start_files started).symm.trans mixedProject_scan)
  rw [files] at least
  have bad : ¬ mixedProject.HoldsText (.ofString "d/b.py") := by
    intro text
    obtain ⟨text, given⟩ := holdsText_iff.mp text
    have refused : mixedProject.readText (.ofString "d/b.py") = .error .notText := by decide +kernel
    rw [refused] at given
    cases given
  have short : ∀ file ∈ [DiscoveredFile.mk (.ofString "d/a.py") .python,
      ⟨.ofString "d/b.py", .python⟩, ⟨.ofString "d/c.py", .python⟩],
      file.path.bytes.length ≤ maxPath := by decide
  have listed : Path.ofString "d/b.py" ∈
      [Path.ofString "d//a.py", .ofString "e"].filter mixedProject.pathExists ++
        [Path.ofString "d/a.py", .ofString "d/b.py", .ofString "d/c.py"] :=
    List.mem_append_right _ (.tail _ (.head _))
  refine ⟨s₀, started, by rw [files]; rfl, ?_⟩
  cases made : (Session.generate _ (Source.ofFiles mixedProject)).1 with
  | ok m => exact absurd (((least short).1.mp ⟨m, made⟩) _ listed) bad
  | error failure => exact ⟨failure, rfl, (least short).2 failure made _ listed bad⟩

/-! ## A root that is too long -/

theorem generate_of_unreadable (started : Session.start fs root config = .ok s₀)
    {file : DiscoveredFile} (alone : s₀.files = [file]) {error : AccessError}
    (refused : fs.readText file.path = .error error) :
    (s₀.generate (Source.ofFiles fs)).1 = .error ⟨file.path, error⟩ := by
  cases made : (s₀.generate (Source.ofFiles fs)).1 with
  | ok m =>
    have all := (generate_registered_succeeds_iff started []).mp ⟨m, made⟩
    obtain ⟨text, given⟩ := holdsText_iff.mp (all file.path (by
      simp [alone, Path.firstIn, Path.Same.refl]))
    rw [refused] at given
    cases given
  | error failure =>
    obtain ⟨member, given, -⟩ := generate_registered_fails started [] made
    obtain ⟨path, error'⟩ := failure
    simp only [List.filter_nil, alone, List.map_cons, List.map_nil, List.nil_append,
      List.mem_singleton] at member
    subst member
    simp only [refused, Except.error.injEq] at given
    rw [given]

def plainProject : FileSystem where
  top := [(.ofString "d", .directory [(.ofString "module.py", .file [])])]

def plainChildren : List (Bytes × Entry) := [(.ofString "module.py", .file [])]

/-- The directory of the project with separators behind it. -/
def widenedRoot (n : Nat) : Path := widened (.ofString "d") n

/-- The path under which a search from there finds the file of the project. -/
def widenedFile (n : Nat) : Path := (widenedRoot n).join (Path.relative [.ofString "module.py"])

theorem length_widenedRoot (n : Nat) : (widenedRoot n).bytes.length = n + 1 :=
  (length_widened _ n).trans (Nat.add_comm 1 n)

theorem length_widenedFile (n : Nat) : n + 10 ≤ (widenedFile n).bytes.length := by
  have length := Path.le_length_join (widenedRoot n) (Path.relative [.ofString "module.py"])
  rw [length_widenedRoot] at length
  exact length

theorem widenedRoot_resolve {n : Nat} (short : n + 1 ≤ maxPath) :
    plainProject.resolve (widenedRoot n) = .ok ([.ofString "d"], .directory plainChildren) :=
  resolve_widened (p := .ofString "d") rfl ((Nat.add_comm 1 n).trans_le short)

theorem widenedFile_same (n : Nat) : (widenedFile n).Same (.ofString "d/module.py") := by
  have proper : ∀ name ∈ [Bytes.ofString "module.py"], IsName name := by decide
  have joined := Path.components_join_relative (p := widenedRoot n) proper (List.cons_ne_nil _ _)
  have root : (widenedRoot n).components = [.normal (.ofString "d")] :=
    Path.same_separators (p := .ofString "d") (by decide) n
  refine joined.trans ?_
  rw [root]
  rfl

theorem scan_widenedRoot {n : Nat} (short : n + 1 ≤ maxPath) :
    plainProject.scan (widenedRoot n) false FileKind.standard = .ok [⟨widenedFile n, .python⟩] := by
  have kind : FileKind.ofPath? (widenedFile n) = some .python := by
    rw [FileKind.ofPath?_eq_of_same (widenedFile_same n)]
    rfl
  have selected : DiscoveredFile.select FileKind.standard (widenedFile n) =
      some ⟨widenedFile n, .python⟩ :=
    DiscoveredFile.select_eq_some.mpr ⟨rfl, kind, .head _⟩
  have listed : plainProject.listChildren (widenedRoot n) plainChildren =
      [widenedFile n].map .file := rfl
  rw [scan_of_directory (widenedRoot_resolve short)]
  refine DiscoveredFile.collect_eq_ok.mpr ⟨_, listed, ?_⟩
  rw [List.filterMap_cons, selected]
  exact List.mergeSort_singleton _

theorem generate_widened {n : Nat} (short : n + 1 ≤ maxPath) (long : maxPath < n + 10) :
    ∃ s₀, Session.start plainProject (widenedRoot n) {} = .ok s₀ ∧
      s₀.files = [⟨widenedFile n, .python⟩] ∧
      (s₀.generate (Source.ofFiles plainProject)).1 = .error ⟨widenedFile n, .nameTooLong⟩ := by
  have refused : plainProject.readText (widenedFile n) = .error .nameTooLong :=
    readText_of_error (resolve_join_of_long (widenedRoot_resolve short) (.child (.head _))
      (long.trans_le (length_widenedFile n)))
  obtain ⟨extractor, -, start⟩ := start_eq plainProject (widenedRoot n) {}
  have found : plainProject.scan (widenedRoot n) (Config.respectIgnoreFiles {})
      (Config.mode {}).fileKinds = .ok [⟨widenedFile n, .python⟩] := scan_widenedRoot short
  rw [found] at start
  exact ⟨_, start, rfl, generate_of_unreadable start rfl refused⟩

/-- The root leads to a directory with one file, which is a text and is found, but the path under
which it is found is longer than a lookup allows. -/
theorem long_root_hides_content :
    ∃ s₀, Session.start plainProject (widenedRoot 4090) {} = .ok s₀ ∧
      s₀.files = [⟨widenedFile 4090, .python⟩] ∧
      plainProject.readText (.ofString "d/module.py") = .ok "" ∧
      (s₀.generate (Source.ofFiles plainProject)).1 =
        .error ⟨widenedFile 4090, .nameTooLong⟩ := by
  obtain ⟨s₀, start, files, failed⟩ := generate_widened (n := 4090) (by decide) (by decide)
  exact ⟨s₀, start, files, by decide +kernel, failed⟩

end Session

end ProjectContext
