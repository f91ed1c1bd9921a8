import ProjectContext.Proofs.Cache.Reading
import ProjectContext.Session.Basic

/-!
# Runs of sessions

A run is a list of requests, each with the source as it is at the time. `after_cases` says what one
request can do to a session; what a whole run keeps follows by induction: the project never
changes (`run_fixed`), paths are registered in turn (`registered_run`) and keep the spelling they came
with (`spelling?_run`), and the cache only grows (`run_extends`).
-/

namespace ProjectContext.Session

inductive Request
  | register (p : Path)
  | generate
  | insights
  | report

def after (s : Session) (source : Source) : Request → Session
  | .register p => (s.register source p).2
  | .generate => (s.generate source).2
  | .insights => (s.insights source).2
  | .report => (s.report source).2

def run (s : Session) (requests : List (Source × Request)) : Session :=
  requests.foldl (fun s request => s.after request.1 request.2) s

/-- The paths that a run registers, as they are spelled in the requests. -/
def accepted : List (Source × Request) → List Path
  | [] => []
  | (source, .register p) :: rest => if source.holds p then p :: accepted rest else accepted rest
  | _ :: rest => accepted rest

/-- A session as it begins: over the files that a search has found, or over given ones. -/
inductive Opened : Session → Prop
  | discovered {fs : FileSystem} {root : Path} {config : Config} {s : Session}
      (started : Session.start fs root config = .ok s) : Opened s
  | assembled (root : Path) (files : List DiscoveredFile) (extractor : Extractor)
      (policy : RegistrationPolicy) : Opened { root, files, extractor, policy }

theorem Opened.eq_fresh {s : Session} (opened : Opened s) :
    ∃ log, (log = [] ∨ ∃ count root, log = [.discovered count root]) ∧
      s = { root := s.root, files := s.files, extractor := s.extractor, policy := s.policy, log } := by
  cases opened with
  | assembled root files extractor policy => exact ⟨[], .inl rfl, rfl⟩
  | @discovered fs root config _ started =>
    rw [Session.start] at started
    cases found : fs.scan root config.respectIgnoreFiles config.mode.fileKinds with
    | error error => simp [found, Except.mapError, bind, Except.bind] at started
    | ok files =>
      cases built : Extractor.ofMode config.mode with
      | error error => simp [found, built, Except.mapError, bind, Except.bind] at started
      | ok extractor =>
        simp only [found, built, Except.mapError, bind, Except.bind, pure, Except.pure,
          Except.ok.injEq] at started
        rw [← started]
        exact ⟨_, .inr ⟨files.length, root, rfl⟩, rfl⟩

theorem Opened.registered_eq {s : Session} (opened : Opened s) : s.registered = .empty := by
  obtain ⟨log, -, eq⟩ := opened.eq_fresh
  rw [eq]

theorem Opened.cache_eq {s : Session} (opened : Opened s) : s.cache = {} := by
  obtain ⟨log, -, eq⟩ := opened.eq_fresh
  rw [eq]

/-! ## Reading the files of a context -/

theorem readFile_eq (s : Session) (source : Source) (p : Path) :
    ∃ log, s.readFile source p =
      ((s.cache.read source p).1, { s with cache := (s.cache.read source p).2, log }) := by
  rw [readFile]
  cases done : s.cache.read source p with
  | mk result cache =>
    cases result with
    | error failure => exact ⟨s.log, rfl⟩
    | ok content =>
      cases s.cache.contains p with
      | true => exact ⟨s.log, rfl⟩
      | false => exact ⟨s.log ++ [.read p (Bytes.ofString content.text).length], rfl⟩

/-- The entry of a context for a file of some kind with some content. -/
def entryOf (s : Session) (e : Path × Option FileKind) (content : Content) : Path × FileFacts :=
  (e.1, s.facts e.1 e.2 content)

/-- Collecting entries is reading their files in order; nothing but the cache and the log changes. -/
theorem collect_eq (s : Session) (source : Source) (entries : List (Path × Option FileKind)) :
    ∃ log, s.collect source entries =
      ((s.cache.readAll source (entries.map (·.1))).1.map (List.zipWith s.entryOf entries),
        { s with cache := (s.cache.readAll source (entries.map (·.1))).2, log }) := by
  induction entries generalizing s with
  | nil => exact ⟨s.log, rfl⟩
  | cons e rest ih =>
    obtain ⟨p, kind⟩ := e
    obtain ⟨log, first⟩ := readFile_eq s source p
    rw [collect, first, List.map_cons, Cache.readAll]
    cases done : s.cache.read source p with
    | mk result cache =>
      cases result with
      | error failure => exact ⟨log, rfl⟩
      | ok content =>
        obtain ⟨last, later⟩ := ih { s with cache, log }
        simp only [later]
        cases others : cache.readAll source (rest.map (·.1)) with
        | mk results final =>
          cases results with
          | error failure => exact ⟨last, rfl⟩
          | ok contents => exact ⟨last, rfl⟩

/-! ## One request -/

def cacheAfter (s : Session) (source : Source) : Cache :=
  (s.cache.readAll source s.members.keys).2

theorem generate_snd (s : Session) (source : Source) :
    ∃ log, (s.generate source).2 = { s with cache := s.cacheAfter source, log } := by
  obtain ⟨log, eq⟩ := collect_eq s source s.members.entries
  rw [generate, eq]
  cases done : (s.cache.readAll source (s.members.entries.map (·.1))).1 with
  | error failure => exact ⟨log, rfl⟩
  | ok contents =>
    exact ⟨log ++ [.generated _], rfl⟩

theorem insights_eq (s : Session) (source : Source) :
    s.insights source = ((s.generate source).1.map .ofContext, (s.generate source).2) := rfl

theorem report_eq (s : Session) (source : Source) :
    s.report source =
      (((s.generate source).1.map .ofContext).map Insights.report, (s.generate source).2) := rfl

theorem register_missing (s : Session) {source : Source} {p : Path}
    (missing : source.holds p = false) : ∃ log, (s.register source p).2 = { s with log } := by
  rw [register, if_neg (by simp [missing])]
  split
  · exact ⟨_, rfl⟩
  · exact ⟨s.log, rfl⟩

theorem after_cases (s : Session) (source : Source) (request : Request) :
    (∃ p log, request = .register p ∧ source.holds p ∧
      s.after source request = { s with registered := s.registered.insert p (), log }) ∨
    (∃ p log, request = .register p ∧ source.holds p = false ∧
      s.after source request = { s with log }) ∨
    ∃ log, (∀ p, request ≠ .register p) ∧
      s.after source request = { s with cache := s.cacheAfter source, log } := by
  have generated (request : Request) (other : ∀ p, request ≠ .register p)
      (eq : s.after source request = (s.generate source).2) :
      ∃ log, (∀ p, request ≠ .register p) ∧
        s.after source request = { s with cache := s.cacheAfter source, log } := by
    obtain ⟨log, snd⟩ := generate_snd s source
    exact ⟨log, other, eq.trans snd⟩
  cases request with
  | register p =>
    cases held : source.holds p with
    | true =>
      refine .inl ⟨p, s.log ++ [.registered p], rfl, held, ?_⟩
      simp [after, register, held, logged]
    | false =>
      obtain ⟨log, eq⟩ := register_missing s held
      exact .inr (.inl ⟨p, log, rfl, held, eq⟩)
  | generate => exact .inr (.inr (generated .generate nofun rfl))
  | insights => exact .inr (.inr (generated .insights nofun rfl))
  | report => exact .inr (.inr (generated .report nofun rfl))

/-! ## Whole runs -/

theorem run_cons (s : Session) (request : Source × Request) (rest : List (Source × Request)) :
    s.run (request :: rest) = (s.after request.1 request.2).run rest := rfl

theorem accepted_cons (request : Source × Request) (rest : List (Source × Request)) :
    accepted (request :: rest) = accepted [request] ++ accepted rest := by
  obtain ⟨source, request⟩ := request
  cases request with
  | register p =>
    simp only [accepted]
    split <;> rfl
  | generate => rfl
  | insights => rfl
  | report => rfl

theorem accepted_register {source : Source} {p : Path} (held : source.holds p = true)
    (rest : List (Source × Request)) :
    accepted ((source, .register p) :: rest) = p :: accepted rest := by
  rw [accepted, if_pos held]

theorem accepted_missing {source : Source} {p : Path} (missing : source.holds p = false)
    (rest : List (Source × Request)) :
    accepted ((source, .register p) :: rest) = accepted rest := by
  rw [accepted, missing, if_neg Bool.false_ne_true]

theorem accepted_other (source : Source) {request : Request} (other : ∀ p, request ≠ .register p)
    (rest : List (Source × Request)) : accepted ((source, request) :: rest) = accepted rest := by
  cases request with
  | register p => exact (other p rfl).elim
  | generate => rfl
  | insights => rfl
  | report => rfl

theorem mem_accepted {requests : List (Source × Request)} {p : Path} :
    p ∈ accepted requests ↔ ∃ source, (source, .register p) ∈ requests ∧ source.holds p := by
  induction requests with
  | nil => simp [accepted]
  | cons request rest ih =>
    obtain ⟨source, request⟩ := request
    have other (different : ∀ q, request ≠ .register q) :
        p ∈ accepted ((source, request) :: rest) ↔
          ∃ source', (source', .register p) ∈ (source, request) :: rest ∧ source'.holds p := by
      have unequal : (.register p : Request) ≠ request := (different p).symm
      rw [accepted_other source different, ih]
      simp [unequal]
    cases request with
    | generate => exact other nofun
    | insights => exact other nofun
    | report => exact other nofun
    | register q =>
      cases held : source.holds q with
      | true =>
        rw [accepted_register held, List.mem_cons, ih]
        constructor
        · rintro (rfl | ⟨source', later, accepted⟩)
          · exact ⟨source, List.mem_cons_self, held⟩
          · exact ⟨source', List.mem_cons_of_mem _ later, accepted⟩
        · rintro ⟨source', member, accepted⟩
          rcases List.mem_cons.mp member with same | later
          · cases same
            exact .inl rfl
          · exact .inr ⟨source', later, accepted⟩
      | false =>
        rw [accepted_missing held, ih]
        constructor
        · exact fun ⟨source', later, accepted⟩ => ⟨source', List.mem_cons_of_mem _ later, accepted⟩
        · rintro ⟨source', member, accepted⟩
          rcases List.mem_cons.mp member with same | later
          · cases same
            rw [held] at accepted
            cases accepted
          · exact ⟨source', later, accepted⟩

/-- The two sessions are about the same project and treat it alike. -/
structure Fixed (s after : Session) : Prop where
  root : after.root = s.root
  files : after.files = s.files
  extractor : after.extractor = s.extractor
  policy : after.policy = s.policy

theorem Fixed.trans {s₁ s₂ s₃ : Session} (first : Fixed s₁ s₂) (second : Fixed s₂ s₃) :
    Fixed s₁ s₃ where
  root := second.root.trans first.root
  files := second.files.trans first.files
  extractor := second.extractor.trans first.extractor
  policy := second.policy.trans first.policy

theorem after_fixed (s : Session) (source : Source) (request : Request) :
    Fixed s (s.after source request) := by
  rcases after_cases s source request with ⟨p, log, -, -, eq⟩ | ⟨p, log, -, -, eq⟩ | ⟨log, -, eq⟩
  all_goals
    rw [eq]
    exact ⟨rfl, rfl, rfl, rfl⟩

theorem run_fixed (s : Session) (requests : List (Source × Request)) : Fixed s (s.run requests) := by
  induction requests generalizing s with
  | nil => exact ⟨rfl, rfl, rfl, rfl⟩
  | cons request rest ih => exact (after_fixed s request.1 request.2).trans (ih _)

theorem registered_run (s : Session) (requests : List (Source × Request)) :
    (s.run requests).registered =
      s.registered.insertAll ((accepted requests).map fun p => (p, ())) := by
  induction requests generalizing s with
  | nil => rfl
  | cons request rest ih =>
    obtain ⟨source, request⟩ := request
    rw [run_cons, ih]
    rcases after_cases s source request with ⟨q, log, rfl, held, eq⟩ | ⟨q, log, rfl, missing, eq⟩ |
      ⟨log, other, eq⟩
    · rw [eq, accepted_register held]
      rfl
    · rw [eq, accepted_missing missing]
    · rw [eq, accepted_other source other]

theorem spelling?_run (s : Session) (requests : List (Source × Request)) (p : Path) :
    (s.run requests).registered.spelling? p =
      (s.registered.spelling? p).or (p.firstIn (accepted requests)) := by
  rw [registered_run, PathMap.spelling?_insertAll, List.map_map]
  simp [Function.comp_def]

theorem isRegistered_run (s : Session) (requests : List (Source × Request)) (p : Path) :
    (s.run requests).isRegistered p ↔ s.isRegistered p ∨ ∃ q ∈ accepted requests, q.Same p := by
  rw [isRegistered, isRegistered, PathMap.contains_eq_isSome_spelling?,
    PathMap.contains_eq_isSome_spelling?, spelling?_run, Option.isSome_or, Bool.or_eq_true,
    Path.firstIn_isSome]

theorem after_extends (s : Session) (source : Source) (request : Request) :
    s.cache.Extends (s.after source request).cache := by
  rcases after_cases s source request with ⟨p, log, -, -, eq⟩ | ⟨p, log, -, -, eq⟩ | ⟨log, -, eq⟩
  · rw [eq]
    exact Cache.Extends.refl _
  · rw [eq]
    exact Cache.Extends.refl _
  · rw [eq]
    exact Cache.readAll_extends s.cache source s.members.keys

theorem run_extends (s : Session) (requests : List (Source × Request)) :
    s.cache.Extends (s.run requests).cache := by
  induction requests generalizing s with
  | nil => exact Cache.Extends.refl _
  | cons request rest ih => exact (after_extends s request.1 request.2).trans (ih _)

end ProjectContext.Session
