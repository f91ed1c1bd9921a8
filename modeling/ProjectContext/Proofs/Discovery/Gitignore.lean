import Mathlib.Data.List.Infix
import ProjectContext.Proofs.Discovery.Exclusion
import ProjectContext.Proofs.Ignore.Relative

/-!
# Searches that respect `.gitignore` files

A search with ignore rules finds a part of what a plain search finds, in the same order, and nothing
below an excluded directory. Where `.gitignore` files hold the only rules, the deepest of them with a
line that matches an entry decides on it (`scan_keeps_unexcluded`). A root that begins with the
current directory twice is an exception (`doubled_dot_hides_rules`). The two searches do not fail
alike: an excluded directory is not opened, so it can only make the plain one fail
(`excluded_directory_is_not_opened`).
-/

namespace ProjectContext

open Ignore

/-! ## Lines -/

namespace Ignore

def Rule.matches (rule : Rule) (below : Bytes) (isDirectory : Bool) : Bool :=
  (!rule.onlyDirectories || isDirectory) && rule.glob.holds below

/-- The verdict of the last line that matches. -/
def lastVerdict? (rules : List Rule) (below : Bytes) (isDirectory : Bool) : Option Verdict :=
  (rules.reverse.find? fun rule => rule.matches below isDirectory).map (·.verdict)

theorem RuleSet.verdict?_eq (set : RuleSet) (path : Bytes) (isDirectory : Bool) :
    set.verdict? path isDirectory = lastVerdict? set.rules (relative set.base path) isDirectory := rfl

theorem RuleSet.verdict?_of_empty {set : RuleSet} (empty : set.rules = []) (path : Bytes)
    (isDirectory : Bool) : set.verdict? path isDirectory = none := by
  rw [verdict?_eq, empty]
  rfl

end Ignore

/-! ## Scopes with `.gitignore` rules alone -/

namespace IgnoreScope

/-- Rules stand in the `.gitignore` files below the root alone. -/
structure GitignoreAlone (scope : IgnoreScope) : Prop where
  inside : ∀ rules ∈ scope.inside, rules.ignoreFile.rules = [] ∧ rules.exclude.rules = []
  above : ∀ rules ∈ scope.above, rules.ignoreFile.rules = [] ∧ rules.gitignore.rules = [] ∧
    rules.exclude.rules = []
  user : scope.user.rules = []

theorem findSome?_verdicts_eq_none {α : Type*} {directories : List α} {kind : α → RuleSet}
    (empty : ∀ rules ∈ directories, (kind rules).rules = []) (path : Bytes) (isDirectory : Bool) :
    (directories.map fun rules => (kind rules).verdict? path isDirectory).findSome? id = none := by
  rw [List.findSome?_eq_none_iff]
  intro verdict member
  obtain ⟨rules, present, rfl⟩ := List.mem_map.mp member
  exact RuleSet.verdict?_of_empty (empty rules present) path isDirectory

theorem GitignoreAlone.verdict?_eq {scope : IgnoreScope} (alone : scope.GitignoreAlone) (p : Path)
    (isDirectory : Bool) :
    scope.verdict? p isDirectory =
      (scope.inside.map fun rules =>
        rules.gitignore.verdict? (RuleSet.withoutDot p.bytes) isDirectory).findSome? id := by
  obtain ⟨inside, above, user⟩ := alone
  simp only [verdict?, List.findSome?_append]
  rw [findSome?_verdicts_eq_none (fun rules member => (inside rules member).1),
    findSome?_verdicts_eq_none (fun rules member => (above rules member).1),
    findSome?_verdicts_eq_none (fun rules member => (above rules member).2.1),
    findSome?_verdicts_eq_none (fun rules member => (inside rules member).2),
    findSome?_verdicts_eq_none (fun rules member => (above rules member).2.2),
    RuleSet.verdict?_of_empty user]
  simp

end IgnoreScope

namespace FileSystem

open Entry

variable {fs : FileSystem} {scope : IgnoreScope} {root p : Path} {names : Location}

theorem directoriesAbove_singleton {name : Bytes} (short : (pathOf [name]).bytes.length ≤ maxPath) :
    directoriesAbove [name] = [pathOf []] := by
  rw [directoriesAbove, if_neg (Nat.not_lt.mpr short)]
  rfl

/-- The directories whose rule files a search asks, besides the one of the user: those above the
root, the root and the directories below it. -/
inductive Asks (root : Path) (location : Location) (children : List (Bytes × Entry)) : Path → Prop
  | above {directory : Path} (member : directory ∈ directoriesAbove location) :
    Asks root location children directory
  | root : Asks root location children root
  | below {names : Location} {inner : List (Bytes × Entry)}
    (reached : Reaches children names (.directory inner)) :
    Asks root location children (names.foldl Path.join root)

/-- No line but in the `.gitignore` files of the root and of the directories below it holds a
pattern. -/
structure GitignoreAlone (fs : FileSystem) (root : Path) (location : Location)
    (children : List (Bytes × Entry)) : Prop where
  others : ∀ directory, Asks root location children directory →
    fs.patternsIn (RuleFile.ignore.path directory) = [] ∧
      fs.patternsIn (RuleFile.exclude.path directory) = []
  above : ∀ directory ∈ directoriesAbove location,
    fs.patternsIn (RuleFile.gitignore.path directory) = []
  user : fs.patternsIn (globalFile fs) = []

theorem GitignoreAlone.sound {location : Location} {children : List (Bytes × Entry)}
    (alone : fs.GitignoreAlone root location children) : ¬ fs.FaultyAbove location := by
  rintro ⟨directory, member, file, numbered, listed, -⟩
  obtain ⟨ignore, exclude⟩ := alone.others directory (.above member)
  have empty : fs.patternsIn (file.path directory) = [] := by
    cases file with
    | ignore => exact ignore
    | gitignore => exact alone.above directory member
    | exclude => exact exclude
  rw [empty] at listed
  cases listed

theorem readRules_of_empty {file : Path} (empty : fs.patternsIn file = []) (base : Path) :
    (fs.readRules base file).rules = [] := by
  rw [readRules, empty]
  rfl

theorem asks_of_append {location front rest : Location} {children : List (Bytes × Entry)} {e : Entry}
    (reached : Reaches children (front ++ rest) e) (more : rest ≠ []) :
    Asks root location children (front.foldl Path.join root) := by
  by_cases first : front = []
  · rw [first]
    exact .root
  · obtain ⟨inner, way⟩ := reached.directory_of_append first more
    exact .below way

theorem scopeAt_above (fs : FileSystem) (scope : IgnoreScope) (p : Path) (names : Location) :
    (fs.scopeAt scope p names).above = scope.above ∧ (fs.scopeAt scope p names).user = scope.user := by
  induction names generalizing scope p with
  | nil => exact ⟨rfl, rfl⟩
  | cons name names ih => exact ih _ _

/-- Below the root the rules of all directories on the way are in force, the nearest first. -/
theorem scopeAt_inside (before : List DirectoryRules)
    (here : scope.inside = fs.directoryRules p :: before) (names : Location) :
    (fs.scopeAt scope p names).inside =
      (names.inits.map fun front => fs.directoryRules (front.foldl Path.join p)).reverse ++ before := by
  induction names generalizing scope p before with
  | nil => simpa [scopeAt] using here
  | cons name names ih =>
    have next : (scope.enter (fs.directoryRules (p.join name))).inside =
        fs.directoryRules (p.join name) :: fs.directoryRules p :: before := by
      rw [← here]
      rfl
    rw [scopeAt, ih _ next]
    simp [Function.comp_def]

theorem GitignoreAlone.inScope {location : Location} {children : List (Bytes × Entry)}
    (alone : fs.GitignoreAlone root location children)
    (asked : ∀ front, front <+: names → Asks root location children (front.foldl Path.join root)) :
    (fs.scopeAt (fs.rootScope root location) root names).GitignoreAlone := by
  obtain ⟨above, user⟩ := scopeAt_above fs (fs.rootScope root location) root names
  refine ⟨fun rules member => ?_, fun rules member => ?_, ?_⟩
  · rw [scopeAt_inside [] rfl] at member
    simp only [List.append_nil, List.mem_reverse, List.mem_map, List.mem_inits] at member
    obtain ⟨front, within, rfl⟩ := member
    obtain ⟨ignore, exclude⟩ := alone.others _ (asked front within)
    exact ⟨readRules_of_empty ignore _, readRules_of_empty exclude _⟩
  · rw [above] at member
    obtain ⟨directory, listed, rfl⟩ := List.mem_map.mp member
    obtain ⟨ignore, exclude⟩ := alone.others _ (.above listed)
    exact ⟨readRules_of_empty ignore _, readRules_of_empty (alone.above directory listed) _,
      readRules_of_empty exclude _⟩
  · rw [user]
    exact readRules_of_empty alone.user _

theorem findSome?_inits {α β : Type*} {f : List α → Option β} {list : List α} {b : β} :
    (list.inits.map f).reverse.findSome? id = some b ↔
      ∃ front, front <+: list ∧ f front = some b ∧
        ∀ longer, longer <+: list → front.length < longer.length → f longer = none := by
  induction list using List.reverseRecOn with
  | nil => simp
  | append_singleton list a ih =>
    have whole : (list ++ [a]).inits = list.inits ++ [list ++ [a]] := by simp [List.inits_append]
    rw [whole, List.map_append, List.reverse_append, List.map_singleton, List.reverse_singleton,
      List.singleton_append, List.findSome?_cons]
    cases here : f (list ++ [a]) with
    | some value =>
      constructor
      · rintro same
        refine ⟨list ++ [a], List.prefix_refl _, here.trans same, fun longer within less => ?_⟩
        exact absurd within.length_le less.not_ge
      · rintro ⟨front, within, found, none⟩
        rcases List.prefix_concat_iff.mp within with rfl | within
        · exact here.symm.trans found
        · have less : front.length < (list ++ [a]).length := by
            rw [List.length_append]
            exact Nat.lt_succ_of_le within.length_le
          rw [none _ (List.prefix_refl _) less] at here
          cases here
    | none =>
      refine Iff.trans ih ⟨?_, ?_⟩
      · rintro ⟨front, within, found, none⟩
        refine ⟨front, within.trans (List.prefix_append _ _), found, fun longer above less => ?_⟩
        rcases List.prefix_concat_iff.mp above with rfl | above
        · exact here
        · exact none longer above less
      · rintro ⟨front, within, found, none⟩
        rcases List.prefix_concat_iff.mp within with rfl | within
        · rw [here] at found
          cases found
        · exact ⟨front, within, found, fun longer above =>
            none longer (above.trans (List.prefix_append _ _))⟩

theorem prefix_dropLast_iff {α : Type*} {front list : List α} (some : list ≠ []) :
    front <+: list.dropLast ↔ ∃ rest, list = front ++ rest ∧ rest ≠ [] := by
  constructor
  · rintro ⟨rest, cut⟩
    refine ⟨rest ++ [list.getLast some], ?_, by simp⟩
    rw [← List.append_assoc, cut, List.dropLast_append_getLast some]
  · rintro ⟨rest, rfl, more⟩
    rw [List.dropLast_append_of_ne_nil more]
    exact List.prefix_append _ _

/-- What the `.gitignore` file of the directory that `front` leads to says of the entry that the
names `rest` lead to from there. -/
def gitignoreVerdict? (fs : FileSystem) (root : Path) (front rest : Location) (isDirectory : Bool) :
    Option Verdict :=
  lastVerdict? (fs.directoryRules (front.foldl Path.join root)).gitignore.rules
    (Path.relative rest) isDirectory

/-- Of the directories from the root down to the parent of an entry, the deepest one with a line that
matches the entry has a last such line that is not negated. -/
def GitignoreExcludes (fs : FileSystem) (root : Path) (names : Location) (isDirectory : Bool) :
    Prop :=
  ∃ front rest, names = front ++ rest ∧ rest ≠ [] ∧
    fs.gitignoreVerdict? root front rest isDirectory = some .ignore ∧
    ∀ deeper below, names = deeper ++ below → below ≠ [] → front.length < deeper.length →
      fs.gitignoreVerdict? root deeper below isDirectory = none

theorem gitignoreExcludes_singleton {name : Bytes} {isDirectory : Bool} :
    fs.GitignoreExcludes root [name] isDirectory ↔
      fs.gitignoreVerdict? root [] [name] isDirectory = some .ignore := by
  constructor
  · rintro ⟨front, rest, cut, more, found, -⟩
    rcases List.append_eq_singleton_iff.mp cut.symm with ⟨rfl, rfl⟩ | ⟨-, rfl⟩
    · exact found
    · exact absurd rfl more
  · intro found
    refine ⟨[], [name], rfl, List.cons_ne_nil _ _, found, fun deeper below cut more less => ?_⟩
    rcases List.append_eq_singleton_iff.mp cut.symm with ⟨rfl, -⟩ | ⟨-, rfl⟩
    · exact absurd less (Nat.lt_irrefl 0)
    · exact absurd rfl more

theorem gitignore_verdict?_eq {front rest : Location} (once : ¬ root.BeginsTwice)
    (proper : ∀ name ∈ front ++ rest, IsName name) (some : rest ≠ []) (isDirectory : Bool) :
    (fs.directoryRules (front.foldl Path.join root)).gitignore.verdict?
        (RuleSet.withoutDot ((front ++ rest).foldl Path.join root).bytes) isDirectory =
      fs.gitignoreVerdict? root front rest isDirectory := by
  obtain ⟨above, below⟩ := List.forall_mem_append.mp proper
  have base : (fs.directoryRules (front.foldl Path.join root)).gitignore.base =
      RuleSet.withoutDot (front.foldl Path.join root).bytes := rfl
  rw [List.foldl_append, Path.foldl_join below some, gitignoreVerdict?, RuleSet.verdict?_eq, base,
    RuleSet.relative_join (Path.beginsTwice_foldl_join above once) (Path.head?_relative below)
      (Path.not_dot_relative below)]

theorem excludedAt_iff {location : Location} {children : List (Bytes × Entry)}
    (alone : fs.GitignoreAlone root location children) (once : ¬ root.BeginsTwice)
    (proper : ∀ name ∈ names, IsName name) (some : names ≠ [])
    (asked : ∀ front, front <+: names.dropLast →
      Asks root location children (front.foldl Path.join root)) (isDirectory : Bool) :
    fs.ExcludedAt (fs.rootScope root location) root names isDirectory ↔
      fs.GitignoreExcludes root names isDirectory := by
  have verdict {front rest : Location} (cut : names = front ++ rest) (more : rest ≠ []) :
      (fs.directoryRules (front.foldl Path.join root)).gitignore.verdict?
          (RuleSet.withoutDot (names.foldl Path.join root).bytes) isDirectory =
        fs.gitignoreVerdict? root front rest isDirectory := by
    subst cut
    exact gitignore_verdict?_eq once proper more isDirectory
  rw [ExcludedAt, IgnoreScope.excludes, beq_iff_eq, (alone.inScope asked).verdict?_eq,
    scopeAt_inside [] rfl, List.append_nil, List.map_reverse, List.map_map,
    findSome?_inits]
  constructor
  · rintro ⟨front, within, found, others⟩
    obtain ⟨rest, cut, more⟩ := (prefix_dropLast_iff some).mp within
    refine ⟨front, rest, cut, more, (verdict cut more).symm.trans found, ?_⟩
    intro deeper below cut more less
    rw [← verdict cut more]
    exact others deeper ((prefix_dropLast_iff some).mpr ⟨below, cut, more⟩) less
  · rintro ⟨front, rest, cut, more, found, others⟩
    refine ⟨front, (prefix_dropLast_iff some).mpr ⟨rest, cut, more⟩, (verdict cut more).trans found, ?_⟩
    intro deeper within less
    obtain ⟨below, cut, more⟩ := (prefix_dropLast_iff some).mp within
    exact (verdict cut more).trans (others deeper below cut more less)

/-! ## The search -/

theorem spares_iff {location : Location} {children : List (Bytes × Entry)} {e : Entry}
    (alone : fs.GitignoreAlone root location children) (once : ¬ root.BeginsTwice)
    (valid : (directory children).WellFormed) (reached : Reaches children names e)
    {isDirectory : Bool} :
    Spares (fs.ExcludedAt (fs.rootScope root location) root) names isDirectory ↔
      Spares (fs.GitignoreExcludes root) names isDirectory := by
  have proper := reached.proper valid
  refine spares_congr reached.ne_nil fun front rest some cut isDirectory => ?_
  subst cut
  have asked : ∀ way, way <+: front.dropLast →
      Asks root location children (way.foldl Path.join root) := by
    intro way within
    obtain ⟨below, rfl, more⟩ := (prefix_dropLast_iff some).mp within
    rw [List.append_assoc] at reached
    exact asks_of_append reached (by simp [more])
  exact excludedAt_iff alone once (List.forall_mem_append.mp proper).1 some asked isDirectory

/-- A search that respects ignore rules fails as the plain one does where the root leads to no
directory. A malformed pattern above the root makes it fail; else it fails where a directory that is
too long for a lookup is neither excluded nor below an excluded one, and finds a part of what the
plain one finds, in the same order, wherever that one does not fail. It finds nothing below an
excluded directory. Where lines of the `.gitignore` files at the root and below it hold the only
patterns, a file is left out when it or a directory between the root and it is excluded. -/
theorem scan_keeps_unexcluded (fs : FileSystem) {root : Path} (kinds : List FileKind)
    (named : ¬ root.Same (.ofString "-")) :
    (fs.scan root true kinds = .error (.rootNotFound root) ↔
      fs.scan root false kinds = .error (.rootNotFound root)) ∧
    (fs.scan root true kinds = .error (.notADirectory root) ↔
      fs.scan root false kinds = .error (.notADirectory root)) ∧
    ∀ location children, fs.resolve root = .ok (location, .directory children) →
      (fs.FaultyAbove location → fs.scan root true kinds =
        .error (.walk root ("\n".intercalate (fs.faultsAbove location)))) ∧
      (¬ fs.FaultyAbove location →
        ((∃ error, fs.scan root true kinds = .error error) ↔
          ∃ names, TooLong root children names ∧
            Spares (fs.ExcludedAt (fs.rootScope root location) root) names true) ∧
        (∀ error, fs.scan root true kinds = .error error →
          ∃ names, TooLong root children names ∧
            OnTheWay (fun front => ¬ TooLong root children front) names ∧
            Spares (fs.ExcludedAt (fs.rootScope root location) root) names true ∧
            error = .walk root
              (unopenedMessage ⟨root.join (Path.relative names), .nameTooLong⟩)) ∧
        ∀ plain, fs.scan root false kinds = .ok plain →
          ∃ kept, fs.scan root true kinds = .ok kept ∧ kept.Sublist plain) ∧
      ∀ kept, fs.scan root true kinds = .ok kept →
        (∀ front inner, Reaches children front (.directory inner) →
          fs.ExcludedAt (fs.rootScope root location) root front true →
          ∀ names e, Reaches children names e → front <+: names →
            ∀ file ∈ kept, ¬ file.path.Same (root.join (Path.relative names))) ∧
        (fs.GitignoreAlone root location children → ¬ root.BeginsTwice →
          ∀ file, file ∈ kept ↔
            ∃ names e, Reaches children names e ∧ file.path = root.join (Path.relative names) ∧
              fs.Lists file.path e ∧ FileKind.ofPath? file.path = some file.kind ∧
              file.kind ∈ kinds ∧ Spares (fs.GitignoreExcludes root) names false) := by
  obtain ⟨notFound, notDirectory⟩ := @scan_respecting_root_error fs root kinds
  refine ⟨notFound, notDirectory, fun location children leads => ⟨fun faulty =>
    scan_respecting_of_faulty leads named faulty, fun sound => ⟨?_, ?_, ?_⟩, fun kept found => ?_⟩⟩
  · exact scan_respecting_fails_iff leads named sound
  · exact fun error => scan_respecting_walk_error leads named sound
  · exact fun plain => scan_respecting_sublist leads named sound
  · have sound := sound_of_found leads named found
    refine ⟨fun front inner way excluded names e reached within file member =>
      not_found_below leads named sound found way excluded reached within member,
      fun alone once file => ?_⟩
    rw [mem_scan_respecting leads named sound found]
    refine exists_congr fun names => exists_congr fun e => ?_
    refine and_congr_right fun reached => ?_
    rw [spares_iff alone once (wellFormed_of_resolve leads) reached]

/-- A directory in which one line excludes a file and another one a directory, where a line would
keep a file. -/
def ruledChildren : List (Bytes × Entry) :=
  [(.ofString ".gitignore", .file (.ofString "/a.py\nsub/\n")),
    (.ofString "a.py", .file []),
    (.ofString "b.py", .file []),
    (.ofString "sub", .directory [
      (.ofString ".gitignore", .file (.ofString "!a.py\n")),
      (.ofString "a.py", .file [])])]

def ruledProject : FileSystem where
  top := [(.ofString "d", .directory ruledChildren)]

theorem ruledChildren_directory {inner : List (Bytes × Entry)}
    (reached : Reaches ruledChildren names (.directory inner)) : names = [.ofString "sub"] := by
  cases reached with
  | child member =>
    simp only [ruledChildren, List.mem_cons, Prod.mk.injEq, reduceCtorEq, and_false, false_or,
      List.not_mem_nil, or_false] at member
    rw [member.1]
  | inside member deeper =>
    simp only [ruledChildren, List.mem_cons, Prod.mk.injEq, reduceCtorEq, and_false, false_or,
      List.not_mem_nil, or_false, directory.injEq] at member
    obtain ⟨-, rfl⟩ := member
    cases deeper <;> simp_all

theorem ruledProject_alone {root : Path}
    (spelled : root = .ofString "d" ∨ root = .ofString "././d") :
    ruledProject.GitignoreAlone root [.ofString "d"] ruledChildren := by
  have above : directoriesAbove [.ofString "d"] = [pathOf []] :=
    directoriesAbove_singleton (by decide)
  have asked : ∀ directory, Asks root [.ofString "d"] ruledChildren directory →
      directory ∈ [pathOf [], root, root.join (.ofString "sub")] := by
    rintro directory (member | _ | reached)
    · simp_all
    · simp
    · simp [ruledChildren_directory reached]
  have silent : ∀ directory ∈ [pathOf [], root, root.join (.ofString "sub")],
      ruledProject.patternsIn (RuleFile.ignore.path directory) = [] ∧
        ruledProject.patternsIn (RuleFile.exclude.path directory) = [] := by
    rcases spelled with rfl | rfl <;> decide +kernel
  refine ⟨fun directory asks => silent directory (asked directory asks), ?_, by decide +kernel⟩
  rw [above]
  decide +kernel

theorem ruledProject_resolve : ruledProject.resolve (.ofString "d") =
    .ok ([.ofString "d"], .directory ruledChildren) := rfl

theorem ruledProject_plain :
    ruledProject.scan (.ofString "d") false [.python] = .ok [⟨.ofString "d/a.py", .python⟩,
      ⟨.ofString "d/b.py", .python⟩, ⟨.ofString "d/sub/a.py", .python⟩] := by
  let paths : List Path := [.ofString "d/.gitignore", .ofString "d/a.py", .ofString "d/b.py",
    .ofString "d/sub/.gitignore", .ofString "d/sub/a.py"]
  have listed : ruledProject.listChildren (.ofString "d") ruledChildren = paths.map .file := by
    decide +kernel
  have selected : paths.filterMap (DiscoveredFile.select [.python]) =
      [⟨.ofString "d/a.py", .python⟩, ⟨.ofString "d/b.py", .python⟩,
        ⟨.ofString "d/sub/a.py", .python⟩] := by decide +kernel
  rw [scan_of_directory ruledProject_resolve]
  refine DiscoveredFile.collect_eq_ok.mpr ⟨paths, listed, ?_⟩
  rw [selected, DiscoveredFile.sort_of_ascending (by decide)]

theorem ruledProject_keeps_one :
    ∃ kept, ruledProject.scan (.ofString "d") true [.python] = .ok kept ∧
      kept.Sublist [⟨.ofString "d/a.py", .python⟩, ⟨.ofString "d/b.py", .python⟩,
        ⟨.ofString "d/sub/a.py", .python⟩] ∧
      ⟨.ofString "d/b.py", .python⟩ ∈ kept ∧ ⟨.ofString "d/a.py", .python⟩ ∉ kept ∧
      ∀ file ∈ kept, ¬ file.path.Same (.ofString "d/sub/a.py") := by
  have named : ¬ (Path.ofString "d").Same (.ofString "-") := by decide
  obtain ⟨-, -, searched⟩ := scan_keeps_unexcluded ruledProject [.python] named
  have alone := ruledProject_alone (.inl rfl)
  obtain ⟨-, begins, kept⟩ := searched _ _ ruledProject_resolve
  obtain ⟨-, -, finds⟩ := begins alone.sound
  obtain ⟨kept', found, part⟩ := finds _ ruledProject_plain
  obtain ⟨below, exactly⟩ := kept kept' found
  have exactly := exactly alone (by decide)
  refine ⟨kept', found, part, (exactly _).mpr ?_, fun member => ?_, ?_⟩
  · refine ⟨[.ofString "b.py"], .file [], .child (.tail _ (.tail _ (.head _))), rfl, trivial, rfl,
      by decide, spares_singleton.mpr ?_⟩
    rw [gitignoreExcludes_singleton]
    decide +kernel
  · obtain ⟨names, e, reached, spelled, -, -, -, spared⟩ := (exactly _).mp member
    have a : Reaches ruledChildren [.ofString "a.py"] (.file []) := .child (.tail _ (.head _))
    have same : (Path.join (.ofString "d") (Path.relative names)).Same
        (Path.join (.ofString "d") (Path.relative [.ofString "a.py"])) := by
      rw [← spelled]
      exact Path.Same.refl _
    cases names_eq_of_same (wellFormed_of_resolve ruledProject_resolve) reached a same
    rw [spares_singleton, gitignoreExcludes_singleton] at spared
    exact spared (by decide +kernel)
  · have sub : (.ofString "sub", .directory [(.ofString ".gitignore", .file (.ofString "!a.py\n")),
        (.ofString "a.py", .file [])]) ∈ ruledChildren := .tail _ (.tail _ (.tail _ (.head _)))
    refine below [.ofString "sub"] _ (.child sub) ?_ [.ofString "sub", .ofString "a.py"] (.file [])
      (.inside sub (.child (.tail _ (.head _)))) ⟨_, rfl⟩
    rw [excludedAt_singleton]
    decide +kernel

/-- A root whose spelling begins with the current directory twice hides a rule that holds under the
other spellings of the root. -/
theorem doubled_dot_hides_rules :
    ruledProject.scan (.ofString "d") true [.python] = .ok [⟨.ofString "d/b.py", .python⟩] ∧
    ¬ (Path.ofString "././d").Same (.ofString "-") ∧
    ruledProject.GitignoreAlone (.ofString "././d") [.ofString "d"] ruledChildren ∧
    ruledProject.GitignoreExcludes (.ofString "././d") [.ofString "a.py"] false ∧
    ∃ kept, ruledProject.scan (.ofString "././d") true [.python] = .ok kept ∧
      ⟨.ofString "././d/a.py", .python⟩ ∈ kept := by
  have named : ¬ (Path.ofString "././d").Same (.ofString "-") := by decide
  have alone := ruledProject_alone (.inr rfl)
  have leads : ruledProject.resolve (.ofString "././d") =
      .ok ([.ofString "d"], .directory ruledChildren) := rfl
  have listed : ruledProject.listKeptChildren
      (ruledProject.rootScope (.ofString "././d") [.ofString "d"]) (.ofString "././d")
        ruledChildren = [Path.ofString "././d/.gitignore", .ofString "././d/a.py",
          .ofString "././d/b.py"].map .file := by
    decide +kernel
  have found : ruledProject.scan (.ofString "././d") true [.python] = .ok _ :=
    (scan_respecting_of_sound leads named alone.sound).trans
      (DiscoveredFile.collect_eq_ok.mpr ⟨_, listed, rfl⟩)
  refine ⟨by decide +kernel, named, alone, ?_, _, found, ?_⟩
  · rw [gitignoreExcludes_singleton]
    decide +kernel
  · exact DiscoveredFile.mem_selected.mpr (by decide +kernel)

/-! ## An excluded directory whose path is too long -/

theorem components_rulePath (file : RuleFile) (directory : Path) :
    (file.path directory).components =
      directory.components ++ file.names.map fun name => .normal (.ofString name) := by
  have proper : ∀ name ∈ file.names.map Bytes.ofString, IsName name := by cases file <;> decide
  rw [RuleFile.path, ← List.foldl_map, Path.components_foldl_join proper, List.map_map]
  rfl

theorem patternsIn_of_missing {p : Path} (missing : ∀ found, fs.follow p.components ≠ .ok found) :
    fs.patternsIn p = [] := by
  rw [patternsIn, readBytes]
  cases leads : fs.resolve p with
  | error error => rfl
  | ok found => exact absurd (follow_components leads) (missing found)

theorem gitignore_path (directory : Path) :
    RuleFile.gitignore.path directory = directory.join (.ofString ".gitignore") := rfl

theorem gitignore_rules_eq (fs : FileSystem) (directory : Path) :
    (fs.directoryRules directory).gitignore.rules =
      (fs.patternsIn (RuleFile.gitignore.path directory)).filterMap fun numbered =>
        (Rule.ofPattern numbered.2).toOption := rfl

theorem patternsIn_gitignore {location : Location} {children : List (Bytes × Entry)}
    {content : Bytes} (leads : fs.resolve root = .ok (location, .directory children))
    (member : (.ofString ".gitignore", .file content) ∈ children)
    (short : (RuleFile.gitignore.path root).bytes.length ≤ maxPath) :
    fs.patternsIn (RuleFile.gitignore.path root) = RuleSet.patterns content := by
  have there := resolve_join leads (.child member) nofun short
  rw [patternsIn, readBytes]
  exact there ▸ rfl

theorem components_longRoot : longRoot.components = [.normal (.ofString "d")] :=
  Path.same_separators (by decide) _

theorem longRoot_not_hyphen : ¬ longRoot.Same (.ofString "-") := by
  rw [Path.Same, components_longRoot]
  decide

theorem longRoot_begins_once : ¬ longRoot.BeginsTwice := by
  have first : (longRoot.join []).bytes.head? = some 0x64 := by
    rw [Path.join]
    split <;> rfl
  rintro ⟨rest, cut⟩
  rw [← cut] at first
  cases first

section

variable {rules : Bytes} {directory : Path}

theorem longRoot_asks (asks : Asks longRoot [.ofString "d"] (longNamedChildren rules) directory) :
    directory = pathOf [] ∨ directory = longRoot ∨
      directory = [longName].foldl Path.join longRoot := by
  have above : directoriesAbove [.ofString "d"] = [pathOf []] :=
    directoriesAbove_singleton (by decide)
  cases asks with
  | above member => exact .inl (by simpa [above] using member)
  | root => exact .inr (.inl rfl)
  | @below names inner reached =>
    obtain rfl : names = [longName] := by
      cases reached with
      | child member => simp_all [longNamedChildren]
      | inside member deeper => simp_all [longNamedChildren, reaches_nil]
    exact .inr (.inr rfl)

theorem longNamedProject_gitignore (rules : Bytes) : (longNamedProject rules).patternsIn
    (RuleFile.gitignore.path longRoot) = RuleSet.patterns rules := by
  refine patternsIn_gitignore (longRoot_resolve rules) List.mem_cons_self ?_
  have joined := Path.length_join_le longRoot (.ofString ".gitignore")
  rw [← gitignore_path] at joined
  have length : longRoot.bytes.length = 4084 := length_widened _ _
  have bound : 4084 + (Bytes.ofString ".gitignore").length + 1 ≤ maxPath := by decide
  exact joined.trans (length ▸ bound)

/-- The rule file of the root is the only one. -/
theorem longNamedProject_patterns {file : RuleFile}
    (asks : Asks longRoot [.ofString "d"] (longNamedChildren rules) directory)
    (other : file ≠ .gitignore ∨ directory ≠ longRoot) :
    (longNamedProject rules).patternsIn (file.path directory) = [] := by
  refine patternsIn_of_missing fun found leads => ?_
  rw [components_rulePath] at leads
  rcases longRoot_asks asks with above | root | below
  · rw [above] at leads
    cases file <;> exact nomatch leads
  · rw [root, components_longRoot] at leads
    cases file with
    | ignore => exact nomatch leads
    | gitignore => simp [root] at other
    | exclude => exact nomatch leads
  · have proper : ∀ name ∈ [longName], IsName name := by decide
    rw [below, Path.components_foldl_join proper, components_longRoot] at leads
    cases file <;> exact nomatch leads

theorem longNamedProject_globalFile (rules : Bytes) :
    globalFile (longNamedProject rules) = .ofString "/.config/git/ignore" := rfl

theorem longNamedProject_alone (rules : Bytes) :
    (longNamedProject rules).GitignoreAlone longRoot [.ofString "d"] (longNamedChildren rules) := by
  refine ⟨fun directory asks => ⟨longNamedProject_patterns asks (.inl nofun),
    longNamedProject_patterns asks (.inl nofun)⟩, fun directory member => ?_, ?_⟩
  · refine longNamedProject_patterns (.above member) (.inr ?_)
    have above : directoriesAbove [.ofString "d"] = [pathOf []] :=
      directoriesAbove_singleton (by decide)
    rw [above, List.mem_singleton] at member
    intro same
    have spelled := components_longRoot
    rw [← same, member] at spelled
    exact nomatch spelled
  · rw [longNamedProject_globalFile]
    rfl

end

/-- The only directory whose path is too long is excluded, so only the plain search fails. -/
theorem excluded_directory_is_not_opened :
    ¬ longRoot.Same (.ofString "-") ∧
    (∃ error, (longNamedProject (longName ++ [0x2F])).scan longRoot false [.python] = .error error) ∧
    ∃ kept, (longNamedProject (longName ++ [0x2F])).scan longRoot true [.python] = .ok kept := by
  have leads := longRoot_resolve (longName ++ [0x2F])
  have alone := longNamedProject_alone (longName ++ [0x2F])
  refine ⟨longRoot_not_hyphen, (scan_fails_iff leads).mpr ⟨_, tooLong_longRoot.mpr rfl⟩, ?_⟩
  cases found : (longNamedProject (longName ++ [0x2F])).scan longRoot true [.python] with
  | ok kept => exact ⟨kept, rfl⟩
  | error error =>
    obtain ⟨names, long, spared⟩ :=
      (scan_respecting_fails_iff leads longRoot_not_hyphen alone.sound).mp ⟨_, found⟩
    cases tooLong_longRoot.mp long
    obtain ⟨inner, reached⟩ := long.1
    rw [spares_iff alone longRoot_begins_once (wellFormed_of_resolve leads) reached,
      spares_singleton, gitignoreExcludes_singleton, gitignoreVerdict?, List.foldl_nil,
      gitignore_rules_eq, longNamedProject_gitignore] at spared
    refine absurd ?_ spared
    decide +kernel

end FileSystem

end ProjectContext
