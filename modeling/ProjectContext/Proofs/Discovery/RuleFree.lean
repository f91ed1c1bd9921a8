import ProjectContext.Proofs.Discovery.Gitignore

/-!
# Searches in projects without ignore rules

Where no ignore rule exists, the two searches find the same files, with one exception: the search
with ignore rules takes the root `-` for the standard input and finds nothing
(`hyphen_root_hides_files`).
-/

namespace ProjectContext

open Ignore

/-- None of the rule files of a directory holds a rule. -/
structure DirectoryRules.Silent (rules : DirectoryRules) : Prop where
  ignoreFile : rules.ignoreFile.rules = []
  gitignore : rules.gitignore.rules = []
  exclude : rules.exclude.rules = []

namespace IgnoreScope

structure Silent (scope : IgnoreScope) : Prop where
  inside : ∀ rules ∈ scope.inside, rules.Silent
  above : ∀ rules ∈ scope.above, rules.Silent
  user : scope.user.rules = []

variable {scope : IgnoreScope}

theorem Silent.enter {rules : DirectoryRules} (silent : scope.Silent) (here : rules.Silent) :
    (scope.enter rules).Silent := by
  constructor
  · intro others member
    rcases List.mem_cons.mp member with rfl | before
    · exact here
    · exact silent.inside others before
  · exact silent.above
  · exact silent.user

theorem Silent.gitignoreAlone (silent : scope.Silent) : scope.GitignoreAlone := by
  constructor
  · intro rules member
    have none := silent.inside rules member
    exact ⟨none.ignoreFile, none.exclude⟩
  · intro rules member
    have none := silent.above rules member
    exact ⟨none.ignoreFile, none.gitignore, none.exclude⟩
  · exact silent.user

theorem Silent.excludes_eq_false (silent : scope.Silent) (p : Path) (isDirectory : Bool) :
    scope.excludes p isDirectory = false := by
  unfold excludes
  rw [silent.gitignoreAlone.verdict?_eq,
    findSome?_verdicts_eq_none fun rules member => (silent.inside rules member).gitignore]
  rfl

end IgnoreScope

namespace FileSystem

open Entry

variable {fs : FileSystem} {scope : IgnoreScope} {root p : Path}

theorem listKeptChildren_eq_of_silent {children : List (Bytes × Entry)} (silent : scope.Silent)
    (below : ∀ names inner, Reaches children names (.directory inner) →
      (fs.directoryRules (names.foldl Path.join p)).Silent) :
    fs.listKeptChildren scope p children = fs.listChildren p children := by
  induction children using children_induction generalizing scope p with
  | nil => rfl
  | cons name first rest inside ih =>
    have later := ih silent fun names inner reached =>
      below names inner (reaches_cons.mpr (Or.inr reached))
    -- The rules grow by the directory that is entered, which holds none.
    have here : fs.listKeptEntry scope (p.join name) first = fs.listEntry (p.join name) first := by
      cases first with
      | file content => simp [listKeptEntry, listEntry, silent.excludes_eq_false]
      | link target => simp [listKeptEntry, listEntry, silent.excludes_eq_false]
      | directory inner =>
        have entered := silent.enter (below [name] inner (.child List.mem_cons_self))
        have deeper := inside inner rfl entered fun names innermost reached =>
          below (name :: names) innermost (.inside List.mem_cons_self reached)
        rw [listKeptEntry, listEntry, silent.excludes_eq_false]
        exact congrArg (fs.inDirectory _) deeper
    rw [listKeptChildren, listChildren, here, later]

/-- No line of a rule file that a search asks holds a pattern. -/
structure RuleFree (fs : FileSystem) (root : Path) : Prop where
  directories : ∀ location children, fs.resolve root = .ok (location, .directory children) →
    ∀ directory, Asks root location children directory →
      ∀ file : RuleFile, fs.patternsIn (file.path directory) = []
  user : fs.patternsIn (globalFile fs) = []

variable {location : Location} {children : List (Bytes × Entry)}

theorem silent_of_patterns {directory : Path}
    (empty : ∀ file : RuleFile, fs.patternsIn (file.path directory) = []) :
    (fs.directoryRules directory).Silent :=
  ⟨readRules_of_empty (empty .ignore) _, readRules_of_empty (empty .gitignore) _,
    readRules_of_empty (empty .exclude) _⟩

theorem RuleFree.rootScope_silent (free : fs.RuleFree root)
    (leads : fs.resolve root = .ok (location, .directory children)) :
    (fs.rootScope root location).Silent := by
  have silent (directory : Path) (asks : Asks root location children directory) :=
    silent_of_patterns (free.directories location children leads directory asks)
  have outside : (fs.ignoreScope root location).Silent := by
    refine ⟨nofun, fun rules member => ?_, readRules_of_empty free.user _⟩
    obtain ⟨directory, listed, rfl⟩ := List.mem_map.mp member
    exact silent directory (.above listed)
  exact outside.enter (silent root .root)

theorem RuleFree.sound (free : fs.RuleFree root)
    (leads : fs.resolve root = .ok (location, .directory children)) :
    ¬ fs.FaultyAbove location := by
  rintro ⟨directory, member, file, numbered, listed, -⟩
  rw [free.directories location children leads directory (.above member)] at listed
  cases listed

/-- Where no rule file holds a pattern, the two searches have the same outcome. Only the words in
which they tell which directory could not be opened differ. -/
theorem scan_of_ruleFree (kinds : List FileKind) (free : fs.RuleFree root)
    (named : ¬ root.Same (.ofString "-")) :
    (∃ error, (error = .rootNotFound root ∨ error = .notADirectory root) ∧
      fs.scan root true kinds = .error error ∧ fs.scan root false kinds = .error error) ∨
    (∃ location children names, fs.resolve root = .ok (location, .directory children) ∧
      TooLong root children names ∧
      fs.scan root true kinds = .error (.walk root
        (unopenedMessage ⟨root.join (Path.relative names), .nameTooLong⟩)) ∧
      fs.scan root false kinds = .error (.walk root
        (Unopened.message ⟨root.join (Path.relative names), .nameTooLong⟩))) ∨
    ∃ files, fs.scan root true kinds = .ok files ∧ fs.scan root false kinds = .ok files := by
  cases leads : fs.resolve root with
  | error _ =>
    have failed : fs.scan root false kinds = .error (.rootNotFound root) :=
      scan_error.1.mpr (by simp [leads])
    exact .inl ⟨_, .inl rfl, scan_respecting_root_error.1.mpr failed, failed⟩
  | ok found =>
    obtain ⟨location, e⟩ := found
    cases flat : e.isDirectory with
    | false =>
      have failed : fs.scan root false kinds = .error (.notADirectory root) :=
        scan_error.2.mpr ⟨location, e, leads, flat⟩
      exact .inl ⟨_, .inr rfl, scan_respecting_root_error.2.mpr failed, failed⟩
    | true =>
      obtain ⟨children, rfl⟩ := isDirectory_iff.mp flat
      have same := listKeptChildren_eq_of_silent (free.rootScope_silent leads)
        fun names inner reached =>
          silent_of_patterns (free.directories location children leads _ (.below reached))
      rw [scan_respecting_of_sound leads named (free.sound leads), same, scan_of_directory leads]
      rcases Visit.files_cases (fs.listChildren root children) with
        ⟨paths, -, listed⟩ | ⟨u, failed, member⟩
      · exact .inr (.inr ⟨_, DiscoveredFile.collect_eq_ok.mpr ⟨paths, listed, rfl⟩,
          DiscoveredFile.collect_eq_ok.mpr ⟨paths, listed, rfl⟩⟩)
      · obtain ⟨names, long, -, rfl⟩ := (unopened_mem_listChildren leads).mp member
        exact .inr (.inl ⟨location, children, names, rfl, long,
          DiscoveredFile.collect_of_unopened failed, DiscoveredFile.collect_of_unopened failed⟩)

/-- A project in a directory with the name of the standard input. -/
def hyphenProject : FileSystem where
  top := [(.ofString "-", .directory [(.ofString "a.py", .file [])])]

theorem hyphenProject_ruleFree {root : Path}
    (spelled : root = .ofString "-" ∨ root = .ofString "./-") : hyphenProject.RuleFree root := by
  have leads : hyphenProject.resolve root =
      .ok ([.ofString "-"], .directory [(.ofString "a.py", .file [])]) := by
    rcases spelled with rfl | rfl <;> rfl
  have above : directoriesAbove [.ofString "-"] = [pathOf []] :=
    directoriesAbove_singleton (by decide)
  refine ⟨fun location children found directory asks file => ?_, by decide +kernel⟩
  cases leads.symm.trans found
  have asked : directory ∈ [pathOf [], root] := by
    cases asks with
    | above member => simp_all
    | root => simp
    | below reached => cases reached <;> simp_all
  have empty : ∀ directory ∈ [pathOf [], root], ∀ file ∈ RuleFile.all,
      hyphenProject.patternsIn (file.path directory) = [] := by
    rcases spelled with rfl | rfl <;> decide +kernel
  exact empty directory asked file (by cases file <;> decide)

theorem hyphenProject_scanned :
    ∃ files, hyphenProject.scan (.ofString "./-") true [.python] = .ok files ∧
      hyphenProject.scan (.ofString "./-") false [.python] = .ok files := by
  have plain : hyphenProject.scan (.ofString "./-") false [.python] =
      .ok [⟨.ofString "./-/a.py", .python⟩] := by decide +kernel
  rcases scan_of_ruleFree [.python] (hyphenProject_ruleFree (.inr rfl)) (by decide) with
    ⟨error, -, -, failed⟩ | ⟨_, _, names, -, -, -, failed⟩ | same
  · exact nomatch plain.symm.trans failed
  · exact nomatch plain.symm.trans failed
  · exact same

/-- The root `-` stands for the standard input under one of its spellings. -/
theorem hyphen_root_hides_files :
    hyphenProject.RuleFree (.ofString "-") ∧
    hyphenProject.scan (.ofString "-") false [.python] = .ok [⟨.ofString "-/a.py", .python⟩] ∧
    hyphenProject.scan (.ofString "-") true [.python] = .ok [] :=
  ⟨hyphenProject_ruleFree (.inl rfl), by decide +kernel, by decide +kernel⟩

theorem longNamedProject_ruleFree : (longNamedProject []).RuleFree longRoot := by
  refine ⟨fun location children leads directory asks file => ?_, (longNamedProject_alone []).user⟩
  cases (longRoot_resolve []).symm.trans leads
  by_cases ruled : file = .gitignore ∧ directory = longRoot
  · obtain ⟨rfl, rfl⟩ := ruled
    exact longNamedProject_gitignore []
  · exact longNamedProject_patterns asks (Decidable.not_and_iff_or_not.mp ruled)

theorem unopenedMessage_ne (u : Unopened) : unopenedMessage u ≠ u.message := by
  intro same
  have equal := congrArg String.length same
  simp only [unopenedMessage, String.length_append] at equal
  have colon : ": ".length = 2 := rfl
  omega

/-- A directory whose path is too long makes both searches fail, each in its own words. -/
theorem unopened_directory_is_worded_apart :
    (longNamedProject []).RuleFree longRoot ∧ ¬ longRoot.Same (.ofString "-") ∧
    ∃ plain ruled, plain ≠ ruled ∧
      (longNamedProject []).scan longRoot false [.python] = .error (.walk longRoot plain) ∧
      (longNamedProject []).scan longRoot true [.python] = .error (.walk longRoot ruled) := by
  have leads := longRoot_resolve []
  have sound := longNamedProject_ruleFree.sound leads
  have spared : Spares ((longNamedProject []).ExcludedAt
      ((longNamedProject []).rootScope longRoot [.ofString "d"]) longRoot) [longName] true := by
    rw [spares_singleton, excludedAt_singleton,
      (longNamedProject_ruleFree.rootScope_silent leads).excludes_eq_false]
    exact Bool.false_ne_true
  have fails : ∃ error, (longNamedProject []).scan longRoot true [.python] = .error error :=
    (scan_respecting_fails_iff leads longRoot_not_hyphen sound).mpr
      ⟨_, tooLong_longRoot.mpr rfl, spared⟩
  obtain ⟨error, failed⟩ := fails
  obtain ⟨names, long, -, -, rfl⟩ :=
    scan_respecting_walk_error leads longRoot_not_hyphen sound failed
  cases tooLong_longRoot.mp long
  exact ⟨longNamedProject_ruleFree, longRoot_not_hyphen, _, _, (unopenedMessage_ne _).symm,
    longNamedProject_fails [] [.python], failed⟩

end FileSystem

end ProjectContext
