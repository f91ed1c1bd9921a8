import Mathlib.Data.List.Lex
import ProjectContext.Discovery.Ignoring
import ProjectContext.Proofs.FileTree.Spelling

/-!
# What a plain search finds

Of the entries below a root that are reached without a link on the way, a plain search lists the
files and the links to files that have a wanted kind, and nothing else. A directory whose path has
grown too long makes it fail (`scan_lists_reachable`), also where it holds no file
(`long_directory_fails`).
-/

namespace ProjectContext

open Entry

/-! ## Visits -/

namespace Visit

variable {visits : List Visit} {paths : List Path} {u : Unopened}

def path : Visit → Path
  | .file p => p
  | .unopened u => u.directory

theorem files_eq_ok : files visits = .ok paths ↔ visits = paths.map .file := by
  induction visits generalizing paths with
  | nil => simp [files, eq_comm]
  | cons visit rest ih =>
    cases visit with
    | unopened u => cases paths <;> simp [files]
    | file p =>
      cases paths with
      | nil => cases later : files rest <;> simp [files, later, Except.map]
      | cons q paths =>
        rw [files, List.map_cons, List.cons.injEq, ← ih]
        cases files rest <;> simp [Except.map]

theorem mem_of_files_error (failed : files visits = .error u) : .unopened u ∈ visits := by
  induction visits with
  | nil => cases failed
  | cons visit rest ih =>
    cases visit with
    | unopened v =>
      rw [files, Except.error.injEq] at failed
      exact failed ▸ List.mem_cons_self
    | file p =>
      refine List.mem_cons_of_mem _ (ih ?_)
      rw [files] at failed
      cases later : files rest with
      | ok paths => simp [later, Except.map] at failed
      | error v => simpa [later, Except.map] using failed

theorem files_cases (visits : List Visit) :
    (∃ paths, files visits = .ok paths ∧ visits = paths.map .file) ∨
      ∃ u, files visits = .error u ∧ .unopened u ∈ visits := by
  cases found : files visits with
  | ok paths => exact .inl ⟨paths, rfl, files_eq_ok.mp found⟩
  | error u => exact .inr ⟨u, rfl, mem_of_files_error found⟩

end Visit

namespace FileSystem

variable {fs : FileSystem}

/-! ## The way to an entry -/

/-- Something holds of all directories between a directory and an entry below it. -/
def OnTheWay (holds : Location → Prop) (names : Location) : Prop :=
  ∀ front rest, front ≠ [] → rest ≠ [] → names = front ++ rest → holds front

section

variable {holds : Location → Prop} {names : Location}

theorem onTheWay_singleton {name : Bytes} : OnTheWay holds [name] := by
  intro front rest some last cut
  obtain ⟨rfl, -⟩ | ⟨front, rfl, empty⟩ := List.cons_eq_append_iff.mp cut
  · exact absurd rfl some
  · exact absurd (List.append_eq_nil_iff.mp empty.symm).2 last

theorem onTheWay_cons {name : Bytes} (some : names ≠ []) :
    OnTheWay holds (name :: names) ↔
      holds [name] ∧ OnTheWay (fun front => holds (name :: front)) names := by
  constructor
  · intro way
    refine ⟨way [name] names (List.cons_ne_nil _ _) some rfl, fun front rest _ more cut => ?_⟩
    exact way (name :: front) rest (List.cons_ne_nil _ _) more (by rw [cut]; rfl)
  · rintro ⟨first, later⟩ front rest nonempty more cut
    obtain ⟨rfl, -⟩ | ⟨front, rfl, deeper⟩ := List.cons_eq_append_iff.mp cut
    · exact absurd rfl nonempty
    · by_cases only : front = []
      · rw [only]
        exact first
      · exact later front rest only more deeper

theorem onTheWay_congr {holds' : Location → Prop}
    (same : ∀ front rest, front ≠ [] → rest ≠ [] → names = front ++ rest →
      (holds front ↔ holds' front)) : OnTheWay holds names ↔ OnTheWay holds' names :=
  forall_congr' fun front => forall_congr' fun rest => forall_congr' fun some =>
    forall_congr' fun more => forall_congr' fun cut => same front rest some more cut

/-- What fails at the end of a way fails for the first time there or before. -/
theorem exists_first_failure (holds : Location → Prop) {names : Location} (some : names ≠ [])
    (fails : ¬ holds names) :
    ∃ front rest, names = front ++ rest ∧ front ≠ [] ∧ ¬ holds front ∧ OnTheWay holds front := by
  by_cases way : OnTheWay holds names
  · exact ⟨names, [], (List.append_nil _).symm, some, fails, way⟩
  · simp only [OnTheWay, not_forall] at way
    obtain ⟨front, rest, nonempty, more, cut, earlier⟩ := way
    obtain ⟨first, between, rfl, found⟩ := exists_first_failure holds nonempty earlier
    exact ⟨first, between ++ rest, cut.trans (List.append_assoc _ _ _), found⟩
termination_by names.length
decreasing_by
  rw [cut, List.length_append]
  exact Nat.lt_add_of_pos_right (List.length_pos_of_ne_nil more)

end

/-! ## The listing -/

theorem pathExists_iff {p : Path} : fs.pathExists p ↔ ∃ found, fs.resolve p = .ok found := by
  rw [pathExists]
  cases fs.resolve p <;> simp [Except.isOk, Except.toBool]

/-- A file, or a link at a path that leads to a file. -/
def Lists (fs : FileSystem) (p : Path) : Entry → Prop
  | .file _ => True
  | .link _ => ∃ location content, fs.resolve p = .ok (location, .file content)
  | .directory _ => False

theorem Lists.isDirectory_eq {p : Path} {e : Entry} (lists : fs.Lists p e) :
    e.isDirectory = false := by
  cases e with
  | file content => rfl
  | link target => rfl
  | directory inner => exact lists.elim

theorem isFile_iff {p : Path} :
    fs.isFile p = true ↔ ∃ location content, fs.resolve p = .ok (location, .file content) := by
  rw [isFile]
  cases fs.resolve p with
  | error _ => simp
  | ok found => obtain ⟨location, e⟩ := found; cases e <;> simp [Entry.isFile]

/-- What a search comes upon at an entry. -/
inductive Meets (fs : FileSystem) (p : Path) : Entry → Visit → Prop
  | file {e : Entry} (lists : fs.Lists p e) : Meets fs p e (.file p)
  | unopened {inner : List (Bytes × Entry)} {error : AccessError}
    (fails : fs.resolve p = .error error) : Meets fs p (.directory inner) (.unopened ⟨p, error⟩)

theorem meets_file {p q : Path} {e : Entry} : fs.Meets p e (.file q) ↔ q = p ∧ fs.Lists p e := by
  constructor
  · rintro ⟨lists⟩
    exact ⟨rfl, lists⟩
  · rintro ⟨rfl, lists⟩
    exact .file lists

theorem meets_unopened {p : Path} {e : Entry} {u : Unopened} :
    fs.Meets p e (.unopened u) ↔
      (∃ inner, e = .directory inner) ∧ u.directory = p ∧ fs.resolve p = .error u.error := by
  constructor
  · intro meets
    cases meets with
    | unopened fails => exact ⟨⟨_, rfl⟩, rfl, fails⟩
  · obtain ⟨directory, error⟩ := u
    rintro ⟨⟨inner, rfl⟩, rfl, fails⟩
    exact .unopened fails

theorem Meets.path_eq {p : Path} {e : Entry} {visit : Visit} (meets : fs.Meets p e visit) :
    visit.path = p := by
  cases meets <;> rfl

theorem listChildren_singleton (fs : FileSystem) (p : Path) (name : Bytes) (e : Entry) :
    fs.listChildren p [(name, e)] = fs.listEntry (p.join name) e := by
  rw [listChildren, listChildren, List.append_nil]

theorem mem_inDirectory {p : Path} (inner : List (Bytes × Entry)) {inside : List Visit}
    {visit : Visit} :
    visit ∈ fs.inDirectory p inside ↔
      fs.Meets p (.directory inner) visit ∨ fs.pathExists p ∧ visit ∈ inside := by
  rw [inDirectory, pathExists]
  cases leads : fs.resolve p with
  | error error =>
    rcases visit with q | ⟨q, refused⟩ <;>
      simp [meets_file, meets_unopened, Lists, leads, Except.isOk, Except.toBool,
        eq_comm (a := error)]
  | ok found =>
    cases visit <;> simp [meets_file, meets_unopened, Lists, leads, Except.isOk, Except.toBool]

theorem mem_listEntry {p : Path} {e : Entry} {visit : Visit} :
    visit ∈ fs.listEntry p e ↔
      fs.Meets p e visit ∨
        ∃ inner, e = .directory inner ∧ fs.pathExists p ∧ visit ∈ fs.listChildren p inner := by
  cases e with
  | file content => cases visit <;> simp [listEntry, meets_file, meets_unopened, Lists]
  | link target =>
    rw [listEntry]
    by_cases leads : fs.isFile p <;> cases visit <;>
      simp_all [meets_file, meets_unopened, Lists, isFile_iff]
  | directory inner =>
    rw [listEntry, mem_inDirectory inner]
    simp

/-- The directories on the way to an entry can be opened. -/
def Opens (fs : FileSystem) (p : Path) (names : Location) : Prop :=
  OnTheWay (fun front => fs.pathExists (front.foldl Path.join p)) names

theorem mem_listChildren {children : List (Bytes × Entry)} {p : Path} {visit : Visit} :
    visit ∈ fs.listChildren p children ↔
      ∃ names e, Reaches children names e ∧ fs.Meets (names.foldl Path.join p) e visit ∧
        fs.Opens p names := by
  induction children using children_induction generalizing p with
  | nil => simp [listChildren, reaches_nil]
  | cons name first rest inside ih =>
    rw [listChildren, List.mem_append, ih, mem_listEntry]
    constructor
    · rintro ((meets | ⟨inner, rfl, opens, listed⟩) | ⟨names, e, reached, found⟩)
      · exact ⟨[name], first, .child List.mem_cons_self, meets, onTheWay_singleton⟩
      · obtain ⟨names, e, reached, meets, way⟩ := (inside inner rfl).mp listed
        exact ⟨name :: names, e, .inside List.mem_cons_self reached, meets,
          (onTheWay_cons reached.ne_nil).mpr ⟨opens, way⟩⟩
      · exact ⟨names, e, reaches_cons.mpr (Or.inr reached), found⟩
    · rintro ⟨names, e, reached, meets, way⟩
      rcases reaches_cons.mp reached with here | later
      · left
        rcases reaches_singleton.mp here with ⟨rfl, rfl⟩ | ⟨inner, names, rfl, rfl, deeper⟩
        · exact Or.inl meets
        · obtain ⟨opens, way⟩ := (onTheWay_cons deeper.ne_nil).mp way
          exact Or.inr ⟨inner, rfl, opens, (inside inner rfl).mpr ⟨names, e, deeper, meets, way⟩⟩
      · exact Or.inr ⟨names, e, later, meets, way⟩

theorem listChildren_distinct {children : List (Bytes × Entry)} {p : Path}
    (valid : (directory children).WellFormed) :
    (fs.listChildren p children).Pairwise fun a b => a.path.key ≠ b.path.key := by
  induction children using children_induction generalizing p with
  | nil => exact List.Pairwise.nil
  | cons name first rest inside ih =>
    obtain ⟨distinct, proper, here, later⟩ := valid
    obtain ⟨fresh, distinct⟩ := List.nodup_cons.mp distinct
    have alone : (directory [(name, first)]).WellFormed :=
      ⟨List.nodup_singleton name, proper, here, trivial⟩
    have others : (directory rest).WellFormed := ⟨distinct, later⟩
    rw [listChildren]
    refine List.pairwise_append.mpr ⟨?_, ih others, fun a listed b listed' equal => ?_⟩
    · cases first with
      | file content => exact List.pairwise_singleton _ _
      | link target =>
        rw [listEntry]
        split
        · exact List.pairwise_singleton _ _
        · exact List.Pairwise.nil
      | directory inner =>
        rw [listEntry, inDirectory]
        split
        · exact List.pairwise_singleton _ _
        · exact inside inner rfl here
    · rw [← listChildren_singleton] at listed
      obtain ⟨names, e, reached, meets, -⟩ := mem_listChildren.mp listed
      obtain ⟨names', e', reached', meets', -⟩ := mem_listChildren.mp listed'
      rw [meets.path_eq, meets'.path_eq] at equal
      cases Path.names_eq_of_key_eq (reached.proper alone) (reached'.proper others) equal
      obtain ⟨n, more, child, spelled, member⟩ := reached.head
      obtain ⟨n', more', child', spelled', member'⟩ := reached'.head
      cases spelled.symm.trans spelled'
      cases List.mem_singleton.mp member
      exact fresh (List.mem_map.mpr ⟨_, member', rfl⟩)

/-! ## Directories that cannot be opened -/

variable {root : Path} {location : Location} {children : List (Bytes × Entry)} {names : Location}

/-- The names lead to a directory below the root whose path is too long for a lookup. -/
def TooLong (root : Path) (children : List (Bytes × Entry)) (names : Location) : Prop :=
  (∃ inner, Reaches children names (.directory inner)) ∧
    maxPath < (root.join (Path.relative names)).bytes.length

theorem pathExists_iff_not_tooLong (leads : fs.resolve root = .ok (location, .directory children))
    {inner : List (Bytes × Entry)} (reached : Reaches children names (.directory inner)) :
    fs.pathExists (names.foldl Path.join root) ↔ ¬ TooLong root children names := by
  rw [Path.foldl_join (reached.proper (wellFormed_of_resolve leads)) reached.ne_nil, pathExists_iff]
  constructor
  · rintro ⟨found, there⟩ ⟨-, long⟩
    rw [resolve_join_of_long leads reached long] at there
    cases there
  · intro short
    exact ⟨_, resolve_join leads reached nofun
      (Nat.not_lt.mp fun long => short ⟨⟨inner, reached⟩, long⟩)⟩

theorem opens_iff (leads : fs.resolve root = .ok (location, .directory children)) {e : Entry}
    (reached : Reaches children names e) :
    fs.Opens root names ↔ OnTheWay (fun front => ¬ TooLong root children front) names := by
  refine onTheWay_congr fun front rest some more cut => ?_
  obtain ⟨inner, way⟩ := (cut ▸ reached).directory_of_append some more
  exact pathExists_iff_not_tooLong leads way

theorem meets_unopened_iff (leads : fs.resolve root = .ok (location, .directory children)) {e : Entry}
    (reached : Reaches children names e) {u : Unopened} :
    fs.Meets (names.foldl Path.join root) e (.unopened u) ↔
      TooLong root children names ∧ u = ⟨root.join (Path.relative names), .nameTooLong⟩ := by
  have valid := wellFormed_of_resolve leads
  obtain ⟨directory, error⟩ := u
  rw [meets_unopened, Path.foldl_join (reached.proper valid) reached.ne_nil, Unopened.mk.injEq]
  constructor
  · rintro ⟨⟨inner, rfl⟩, rfl, fails⟩
    by_cases long : maxPath < (root.join (Path.relative names)).bytes.length
    · rw [resolve_join_of_long leads reached long, Except.error.injEq] at fails
      exact ⟨⟨⟨inner, reached⟩, long⟩, rfl, fails.symm⟩
    · rw [resolve_join leads reached nofun (Nat.not_lt.mp long)] at fails
      cases fails
  · rintro ⟨⟨⟨inner, way⟩, long⟩, rfl, rfl⟩
    exact ⟨⟨inner, reached.unique valid way⟩, rfl, resolve_join_of_long leads reached long⟩

theorem unopened_mem_listChildren (leads : fs.resolve root = .ok (location, .directory children))
    {u : Unopened} :
    .unopened u ∈ fs.listChildren root children ↔
      ∃ names, TooLong root children names ∧
        OnTheWay (fun front => ¬ TooLong root children front) names ∧
        u = ⟨root.join (Path.relative names), .nameTooLong⟩ := by
  rw [mem_listChildren]
  constructor
  · rintro ⟨names, e, reached, meets, way⟩
    obtain ⟨long, rfl⟩ := (meets_unopened_iff leads reached).mp meets
    exact ⟨names, long, (opens_iff leads reached).mp way, rfl⟩
  · rintro ⟨names, long, way, rfl⟩
    obtain ⟨inner, reached⟩ := long.1
    exact ⟨names, _, reached, (meets_unopened_iff leads reached).mpr ⟨long, rfl⟩,
      (opens_iff leads reached).mpr way⟩

/-- On the way to a directory whose path is too long there is a first one. -/
theorem exists_first_long (long : TooLong root children names) :
    ∃ front rest, names = front ++ rest ∧ front ≠ [] ∧ TooLong root children front ∧
      OnTheWay (fun front => ¬ TooLong root children front) front := by
  obtain ⟨inner, reached⟩ := long.1
  obtain ⟨front, rest, cut, some, first, way⟩ := exists_first_failure
    (fun front => ¬ TooLong root children front) reached.ne_nil (not_not.mpr long)
  exact ⟨front, rest, cut, some, not_not.mp first, way⟩

end FileSystem

/-! ## The search -/

namespace DiscoveredFile

variable {root : Path} {kinds : List FileKind} {message : Unopened → String} {visits : List Visit}

theorem collect_of_unopened {u : Unopened} (failed : Visit.files visits = .error u) :
    collect root kinds message visits = .error (.walk root (message u)) := by
  rw [collect, failed]
  rfl

theorem collect_cases (root : Path) (kinds : List FileKind) (message : Unopened → String)
    (visits : List Visit) :
    (∃ paths : List Path, visits = paths.map .file ∧
      collect root kinds message visits = .ok (sort (paths.filterMap (select kinds)))) ∨
    ∃ u, .unopened u ∈ visits ∧
      collect root kinds message visits = .error (.walk root (message u)) := by
  rcases Visit.files_cases visits with ⟨paths, found, files⟩ | ⟨u, failed, member⟩
  · exact .inl ⟨paths, files, by rw [collect, found]; rfl⟩
  · exact .inr ⟨u, member, collect_of_unopened failed⟩

theorem collect_eq_ok {files : List DiscoveredFile} :
    collect root kinds message visits = .ok files ↔
      ∃ paths : List Path, visits = paths.map .file ∧
        sort (paths.filterMap (select kinds)) = files := by
  simp only [← Visit.files_eq_ok, collect]
  cases Visit.files visits with
  | error u => simp [Except.mapError, bind, Except.bind]
  | ok paths => simp [Except.mapError, bind, Except.bind, pure, Except.pure]

theorem collect_fails_iff :
    (∃ error, collect root kinds message visits = .error error) ↔ ∃ u, .unopened u ∈ visits := by
  rcases collect_cases root kinds message visits with ⟨paths, rfl, found⟩ | ⟨u, member, failed⟩
  · simp [found]
  · exact ⟨fun _ => ⟨u, member⟩, fun _ => ⟨_, failed⟩⟩

theorem unopened_of_collect {error : ScanError}
    (failed : collect root kinds message visits = .error error) :
    ∃ u, .unopened u ∈ visits ∧ error = .walk root (message u) := by
  rcases collect_cases root kinds message visits with ⟨paths, -, found⟩ | ⟨u, member, failed'⟩
  · rw [found] at failed
    cases failed
  · exact ⟨u, member, Except.error.inj (failed.symm.trans failed')⟩

theorem mem_sort {file : DiscoveredFile} {files : List DiscoveredFile} :
    file ∈ sort files ↔ file ∈ files :=
  List.mem_mergeSort

theorem sort_ascends {files : List DiscoveredFile}
    (distinct : files.Pairwise fun a b => a.path.key ≠ b.path.key) :
    (sort files).Pairwise fun a b => a.path.key < b.path.key := by
  have before {a b : DiscoveredFile} :
      (!decide (b.path.key < a.path.key)) = true ↔ a.path.key ≤ b.path.key := by simp
  have ordered : (sort files).Pairwise fun a b => a.path.key ≤ b.path.key := by
    rw [sort]
    refine List.Pairwise.imp ?_ (List.pairwise_mergeSort ?_ ?_ files)
    · intro a b least
      exact before.mp least
    · intro a b c first second
      exact before.mpr (le_trans (before.mp first) (before.mp second))
    · intro a b
      rw [Bool.or_eq_true, before, before]
      exact le_total a.path.key b.path.key
  have apart : (sort files).Pairwise fun a b => a.path.key ≠ b.path.key :=
    ((List.mergeSort_perm files _).pairwise_iff fun different => different.symm).mpr distinct
  exact (ordered.and apart).imp fun ⟨least, different⟩ => lt_of_le_of_ne least different

theorem select_eq_some {kinds : List FileKind} {p : Path} {file : DiscoveredFile} :
    select kinds p = some file ↔
      file.path = p ∧ FileKind.ofPath? p = some file.kind ∧ file.kind ∈ kinds := by
  simp only [select, Option.filter_eq_some_iff, ofPath?_eq_some, List.contains_iff_mem, and_assoc]

theorem mem_selected {paths : List Path} {file : DiscoveredFile} :
    file ∈ sort (paths.filterMap (select kinds)) ↔
      file.path ∈ paths ∧ FileKind.ofPath? file.path = some file.kind ∧ file.kind ∈ kinds := by
  simp only [mem_sort, List.mem_filterMap, select_eq_some]
  constructor
  · rintro ⟨p, listed, rfl, selected⟩
    exact ⟨listed, selected⟩
  · rintro ⟨listed, selected⟩
    exact ⟨file.path, listed, rfl, selected⟩

theorem selected_ascends {paths : List Path} (distinct : paths.Pairwise fun p q => p.key ≠ q.key) :
    (sort (paths.filterMap (select kinds))).Pairwise fun a b => a.path.key < b.path.key := by
  refine sort_ascends (distinct.filterMap _ fun p q different a found b found' => ?_)
  obtain ⟨rfl, -⟩ := select_eq_some.mp found
  obtain ⟨rfl, -⟩ := select_eq_some.mp found'
  exact different

theorem sort_of_ascending {files : List DiscoveredFile}
    (ascends : files.Pairwise fun a b => a.path.key < b.path.key) : sort files = files := by
  refine List.mergeSort_of_pairwise (ascends.imp fun less => ?_)
  simpa using less.le

end DiscoveredFile

namespace FileSystem

variable {fs : FileSystem} {root : Path} {location : Location} {children : List (Bytes × Entry)}
  {kinds : List FileKind}

theorem scan_eq (fs : FileSystem) (root : Path) (kinds : List FileKind) :
    fs.scan root false kinds =
      match fs.resolve root with
      | .error _ => .error (.rootNotFound root)
      | .ok (_, .directory children) =>
        DiscoveredFile.collect root kinds Unopened.message (fs.listChildren root children)
      | .ok _ => .error (.notADirectory root) := by
  simp only [scan, discover, openRoot]
  cases fs.resolve root with
  | error _ => rfl
  | ok found =>
    obtain ⟨location, e⟩ := found
    cases e <;> rfl

theorem scan_of_directory (leads : fs.resolve root = .ok (location, .directory children)) :
    fs.scan root false kinds =
      DiscoveredFile.collect root kinds Unopened.message (fs.listChildren root children) := by
  rw [scan_eq, leads]

theorem collect_ne_root_error {message : Unopened → String} {visits : List Visit} :
    DiscoveredFile.collect root kinds message visits ≠ .error (.rootNotFound root) ∧
    DiscoveredFile.collect root kinds message visits ≠ .error (.notADirectory root) := by
  rcases DiscoveredFile.collect_cases root kinds message visits with ⟨_, -, eq⟩ | ⟨_, -, eq⟩ <;>
    simp [eq]

theorem scan_error :
    (fs.scan root false kinds = .error (.rootNotFound root) ↔
      ¬ ∃ found, fs.resolve root = .ok found) ∧
    (fs.scan root false kinds = .error (.notADirectory root) ↔
      ∃ location e, fs.resolve root = .ok (location, e) ∧ e.isDirectory = false) := by
  rw [scan_eq]
  cases fs.resolve root with
  | error _ => simp
  | ok found =>
    obtain ⟨location, e⟩ := found
    cases e <;> simp [Entry.isDirectory, collect_ne_root_error]

theorem scan_fails_iff (leads : fs.resolve root = .ok (location, .directory children)) :
    (∃ error, fs.scan root false kinds = .error error) ↔ ∃ names, TooLong root children names := by
  simp only [scan_of_directory leads, DiscoveredFile.collect_fails_iff,
    unopened_mem_listChildren leads]
  constructor
  · rintro ⟨u, names, long, -⟩
    exact ⟨names, long⟩
  · rintro ⟨names, long⟩
    obtain ⟨front, rest, -, -, first, way⟩ := exists_first_long long
    exact ⟨_, front, first, way, rfl⟩

theorem scan_walk_error (leads : fs.resolve root = .ok (location, .directory children))
    {error : ScanError} (failed : fs.scan root false kinds = .error error) :
    ∃ names, TooLong root children names ∧
      OnTheWay (fun front => ¬ TooLong root children front) names ∧
      error = .walk root
        (Unopened.message ⟨root.join (Path.relative names), .nameTooLong⟩) := by
  rw [scan_of_directory leads] at failed
  obtain ⟨u, member, rfl⟩ := DiscoveredFile.unopened_of_collect failed
  obtain ⟨names, long, way, rfl⟩ := (unopened_mem_listChildren leads).mp member
  exact ⟨names, long, way, rfl⟩

theorem mem_listed (leads : fs.resolve root = .ok (location, .directory children))
    (short : ∀ names, ¬ TooLong root children names) {paths : List Path}
    (listed : fs.listChildren root children = paths.map .file) (p : Path) :
    p ∈ paths ↔ ∃ names e, Reaches children names e ∧ p = root.join (Path.relative names) ∧
      fs.Lists p e := by
  have joined {names : Location} {e : Entry} (reached : Reaches children names e) :
      names.foldl Path.join root = root.join (Path.relative names) :=
    Path.foldl_join (reached.proper (wellFormed_of_resolve leads)) reached.ne_nil
  have member : p ∈ paths ↔ .file p ∈ fs.listChildren root children := by simp [listed]
  rw [member, mem_listChildren]
  constructor
  · rintro ⟨names, e, reached, meets, -⟩
    obtain ⟨rfl, lists⟩ := meets_file.mp meets
    exact ⟨names, e, reached, joined reached, lists⟩
  · rintro ⟨names, e, reached, rfl, lists⟩
    rw [← joined reached] at lists ⊢
    exact ⟨names, e, reached, .file lists,
      (opens_iff leads reached).mpr fun front _ _ _ _ => short front⟩

theorem names_eq_of_same {names others : Location} {e other : Entry}
    (valid : (directory children).WellFormed) (reached : Reaches children names e)
    (reached' : Reaches children others other)
    (same : (root.join (Path.relative names)).Same (root.join (Path.relative others))) :
    names = others := by
  refine Path.names_eq_of_key_eq (p := root) (reached.proper valid) (reached'.proper valid) ?_
  rw [Path.foldl_join (reached.proper valid) reached.ne_nil,
    Path.foldl_join (reached'.proper valid) reached'.ne_nil]
  exact Path.same_iff_key_eq.mp same

/-- A plain search fails where the root leads to no directory, and where a directory below it has a
path that is too long; it then names one that is below no other such directory. Else it lists, in the
strict order of paths, the files and the links to files that are reached through real directories,
where their kind is a wanted one; no other entry has a path of the list. -/
theorem scan_lists_reachable (fs : FileSystem) (root : Path) (kinds : List FileKind) :
    (fs.scan root false kinds = .error (.rootNotFound root) ↔
      ¬ ∃ found, fs.resolve root = .ok found) ∧
    (fs.scan root false kinds = .error (.notADirectory root) ↔
      ∃ location e, fs.resolve root = .ok (location, e) ∧ e.isDirectory = false) ∧
    ∀ location children, fs.resolve root = .ok (location, .directory children) →
      ((∃ error, fs.scan root false kinds = .error error) ↔ ∃ names, TooLong root children names) ∧
      (∀ error, fs.scan root false kinds = .error error →
        ∃ names, TooLong root children names ∧
          OnTheWay (fun front => ¬ TooLong root children front) names ∧
          error = .walk root
            (Unopened.message ⟨root.join (Path.relative names), .nameTooLong⟩)) ∧
      ((∀ names, ¬ TooLong root children names) →
        ∃ files, fs.scan root false kinds = .ok files ∧
          files.Pairwise (fun a b => a.path.key < b.path.key) ∧
          (∀ file, file ∈ files ↔
            ∃ names e, Reaches children names e ∧ file.path = root.join (Path.relative names) ∧
              fs.Lists file.path e ∧ FileKind.ofPath? file.path = some file.kind ∧
              file.kind ∈ kinds) ∧
          ∀ names e, Reaches children names e →
            ¬ fs.Lists (root.join (Path.relative names)) e →
            ∀ file ∈ files, ¬ file.path.Same (root.join (Path.relative names))) := by
  refine ⟨scan_error.1, scan_error.2, fun location children leads =>
    ⟨scan_fails_iff leads, fun error => scan_walk_error leads, fun short => ?_⟩⟩
  have valid := wellFormed_of_resolve leads
  rcases DiscoveredFile.collect_cases root kinds Unopened.message (fs.listChildren root children)
    with ⟨paths, listed, found⟩ | ⟨u, member, -⟩
  · have distinct : (fs.listChildren root children).Pairwise fun a b => a.path.key ≠ b.path.key :=
      listChildren_distinct valid
    rw [listed, List.pairwise_map] at distinct
    refine ⟨_, (scan_of_directory leads).trans found, DiscoveredFile.selected_ascends distinct,
      fun file => ?_, fun names e reached other file member same => ?_⟩
    · simp only [DiscoveredFile.mem_selected, mem_listed leads short listed, ← exists_and_right,
        and_assoc]
    · rw [DiscoveredFile.mem_selected, mem_listed leads short listed] at member
      obtain ⟨⟨names', e', reached', spelled, lists⟩, -⟩ := member
      cases names_eq_of_same valid reached' reached (spelled ▸ same)
      cases reached.unique valid reached'
      exact other (spelled ▸ lists)
  · obtain ⟨names, long, -⟩ := (unopened_mem_listChildren leads).mp member
    exact absurd long (short names)

/-- A project behind a link, with a file in a hidden directory that has the name of a file, a link to
that file and a link to itself. -/
def linkedProject : FileSystem where
  top := [(.ofString "in", .link (.ofString "project")),
    (.ofString "project", .directory [
      (.ofString ".a.py", .directory [(.ofString "b.py", .file [])]),
      (.ofString "c.py", .link (.ofString ".a.py/b.py")),
      (.ofString "d.py", .link (.ofString "d.py"))])]

theorem linkedProject_short (names : Location) : ¬ TooLong (.ofString "in")
    [(.ofString ".a.py", .directory [(.ofString "b.py", .file [])]),
      (.ofString "c.py", .link (.ofString ".a.py/b.py")),
      (.ofString "d.py", .link (.ofString "d.py"))] names := by
  rintro ⟨⟨inner, reached⟩, long⟩
  have only : names = [.ofString ".a.py"] := by
    cases reached with
    | child member => simp_all
    | inside member deeper => cases deeper <;> simp_all
  rw [only] at long
  exact absurd long (by decide)

theorem linked_project_scanned :
    ∃ location children,
      linkedProject.resolve (.ofString "in") = .ok (location, .directory children) ∧
      ∃ files, linkedProject.scan (.ofString "in") false [.python] = .ok files ∧
        ⟨.ofString "in/.a.py/b.py", .python⟩ ∈ files ∧ ⟨.ofString "in/c.py", .python⟩ ∈ files ∧
        (∀ file ∈ files, ¬ file.path.Same (.ofString "in/.a.py")) ∧
        ∀ file ∈ files, ¬ file.path.Same (.ofString "in/d.py") := by
  obtain ⟨-, -, searched⟩ := scan_lists_reachable linkedProject (.ofString "in") [.python]
  obtain ⟨-, -, found⟩ := searched _ _ rfl
  obtain ⟨files, found, -, listed, others⟩ := found linkedProject_short
  refine ⟨_, _, rfl, files, found, (listed _).mpr ?_, (listed _).mpr ?_, ?_, ?_⟩
  · exact ⟨[.ofString ".a.py", .ofString "b.py"], .file [],
      .inside (.head _) (.child (.head _)), rfl, trivial, rfl, by decide⟩
  · exact ⟨[.ofString "c.py"], .link (.ofString ".a.py/b.py"), .child (.tail _ (.head _)), rfl,
      ⟨_, _, rfl⟩, rfl, by decide⟩
  · exact others [.ofString ".a.py"] _ (.child (.head _)) id
  · refine others [.ofString "d.py"] (.link (.ofString "d.py"))
      (.child (.tail _ (.tail _ (.head _)))) ?_
    rintro ⟨location, content, leads⟩
    have circular : linkedProject.resolve (.ofString "in/d.py") = .error .tooManyLinks := rfl
    exact nomatch circular.symm.trans leads

/-! ## A directory whose path is too long -/

/-- A path with separators behind it. -/
def widened (p : Path) (n : Nat) : Path := ⟨p.bytes ++ List.replicate n Path.separator⟩

theorem length_widened (p : Path) (n : Nat) : (widened p n).bytes.length = p.bytes.length + n := by
  simp [widened]

theorem resolve_widened {p : Path} (leads : fs.resolve p = .ok (location, .directory children))
    {n : Nat} (short : p.bytes.length + n ≤ maxPath) :
    fs.resolve (widened p n) = .ok (location, .directory children) :=
  resolve_separators leads ((length_widened p n).trans_le short)

/-- A name of twenty letters. -/
def longName : Bytes := .ofString "aaaaaaaaaaaaaaaaaaaa"

/-- A directory with a rule file, a file and an empty directory that has a longer name. -/
def longNamedChildren (rules : Bytes) : List (Bytes × Entry) :=
  [(.ofString ".gitignore", .file rules), (.ofString "b.py", .file []), (longName, .directory [])]

def longNamedProject (rules : Bytes) : FileSystem where
  top := [(.ofString "d", .directory (longNamedChildren rules))]
  wellFormed :=
    have distinct : ((longNamedChildren []).map (·.1)).Nodup := by decide
    ⟨List.nodup_singleton _, by decide, ⟨distinct, by decide, trivial, by decide, trivial,
      by decide, ⟨List.nodup_nil, trivial⟩, trivial⟩, trivial⟩

/-- The root of that project, spelled so that the paths of its two files are short enough for a
lookup and that of the directory is not. -/
def longRoot : Path := widened (.ofString "d") 4083

theorem longRoot_resolve (rules : Bytes) : (longNamedProject rules).resolve longRoot =
    .ok ([.ofString "d"], .directory (longNamedChildren rules)) :=
  resolve_widened rfl (by decide)

theorem tooLong_longRoot {rules : Bytes} {names : Location} :
    TooLong longRoot (longNamedChildren rules) names ↔ names = [longName] := by
  constructor
  · rintro ⟨⟨inner, reached⟩, -⟩
    cases reached with
    | child member => simp_all [longNamedChildren]
    | inside member deeper => simp_all [longNamedChildren, reaches_nil]
  · rintro rfl
    refine ⟨⟨[], .child (by simp [longNamedChildren])⟩, ?_⟩
    have length := Path.le_length_join longRoot (Path.relative [longName])
    rw [longRoot, length_widened] at length
    exact lt_of_lt_of_le (by decide) length

theorem longNamedProject_fails (rules : Bytes) (kinds : List FileKind) :
    (longNamedProject rules).scan longRoot false kinds = .error (.walk longRoot
      (Unopened.message ⟨longRoot.join longName, .nameTooLong⟩)) := by
  have leads := longRoot_resolve rules
  have fails : ∃ error, (longNamedProject rules).scan longRoot false kinds = .error error :=
    (scan_fails_iff leads).mpr ⟨_, tooLong_longRoot.mpr rfl⟩
  obtain ⟨error, failed⟩ := fails
  obtain ⟨names, long, -, rfl⟩ := scan_walk_error leads failed
  cases tooLong_longRoot.mp long
  exact failed

/-- The root leads to a directory, but the search fails because of a directory below it. -/
theorem long_directory_fails :
    (longNamedProject []).resolve longRoot =
      .ok ([.ofString "d"], .directory (longNamedChildren [])) ∧
    (longNamedProject []).scan longRoot false [.python] = .error (.walk longRoot
      (Unopened.message ⟨longRoot.join longName, .nameTooLong⟩)) :=
  ⟨longRoot_resolve [], longNamedProject_fails [] [.python]⟩

end FileSystem

end ProjectContext
