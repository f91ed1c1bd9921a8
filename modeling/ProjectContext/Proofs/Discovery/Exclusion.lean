import Mathlib.Data.List.Sort
import ProjectContext.Proofs.Discovery.Walk

/-!
# What a search with ignore rules finds

The rules that are in force below a root grow on the way down (`scopeAt`). A search that respects them
comes upon what a plain one does, as far as neither an entry nor a directory on the way to it is
excluded (`mem_listKeptChildren`), and in the same order (`scan_respecting_sublist`). A malformed
pattern above the root keeps it from beginning (`scan_respecting_of_faulty`).
-/

namespace ProjectContext.FileSystem

open Entry

variable {fs : FileSystem} {scope : IgnoreScope} {root p q : Path} {names : Location}

/-! ## Exclusion -/

/-- The rules in force in the directory that the names lead to, where `scope` is in force at `p`. -/
def scopeAt (fs : FileSystem) (scope : IgnoreScope) (p : Path) : Location → IgnoreScope
  | [] => scope
  | name :: names => fs.scopeAt (scope.enter (fs.directoryRules (p.join name))) (p.join name) names

/-- The rules exclude the entry that the names lead to; those of its parent are in force. -/
def ExcludedAt (fs : FileSystem) (scope : IgnoreScope) (p : Path) (names : Location)
    (isDirectory : Bool) : Prop :=
  (fs.scopeAt scope p names.dropLast).excludes (names.foldl Path.join p) isDirectory

theorem excludedAt_singleton {name : Bytes} {isDirectory : Bool} :
    fs.ExcludedAt scope p [name] isDirectory ↔ scope.excludes (p.join name) isDirectory := Iff.rfl

theorem excludedAt_cons {name : Bytes} (some : names ≠ []) {isDirectory : Bool} :
    fs.ExcludedAt scope p (name :: names) isDirectory ↔
      fs.ExcludedAt (scope.enter (fs.directoryRules (p.join name))) (p.join name) names
        isDirectory := by
  rw [ExcludedAt, List.dropLast_cons_of_ne_nil some]
  rfl

/-- Neither the entry that the names lead to nor a directory on the way to it is excluded. -/
def Spares (excluded : Location → Bool → Prop) (names : Location) (isDirectory : Bool) : Prop :=
  ¬ excluded names isDirectory ∧ OnTheWay (fun front => ¬ excluded front true) names

variable {isDirectory : Bool}

theorem spares_congr {excluded excluded' : Location → Bool → Prop} (some : names ≠ [])
    (same : ∀ front rest, front ≠ [] → names = front ++ rest → ∀ isDirectory,
      excluded front isDirectory ↔ excluded' front isDirectory) :
    Spares excluded names isDirectory ↔ Spares excluded' names isDirectory :=
  and_congr (not_congr (same names [] some (by simp) isDirectory))
    (onTheWay_congr fun front rest nonempty _ cut => not_congr (same front rest nonempty cut true))

theorem spares_singleton {excluded : Location → Bool → Prop} {name : Bytes} :
    Spares excluded [name] isDirectory ↔ ¬ excluded [name] isDirectory :=
  and_iff_left onTheWay_singleton

theorem spares_cons {name : Bytes} (some : names ≠ []) :
    Spares (fs.ExcludedAt scope p) (name :: names) isDirectory ↔
      ¬ scope.excludes (p.join name) true ∧
        Spares (fs.ExcludedAt (scope.enter (fs.directoryRules (p.join name))) (p.join name))
          names isDirectory := by
  rw [Spares, Spares, excludedAt_cons some, onTheWay_cons some, excludedAt_singleton,
    onTheWay_congr fun front rest nonempty _ _ => not_congr (excludedAt_cons nonempty),
    and_left_comm]

theorem Spares.front {excluded : Location → Bool → Prop} {front rest : Location}
    (spared : Spares excluded (front ++ rest) isDirectory) (some : front ≠ []) (more : rest ≠ []) :
    Spares excluded front true :=
  ⟨spared.2 front rest some more rfl, fun first between nonempty _ cut =>
    spared.2 first (between ++ rest) nonempty (by simp [more]) (by rw [cut, List.append_assoc])⟩

/-! ## The listing -/

theorem listKeptEntry_eq (fs : FileSystem) (scope : IgnoreScope) (p : Path) {e : Entry}
    (flat : e.isDirectory = false) :
    fs.listKeptEntry scope p e = if scope.excludes p false then [] else fs.listEntry p e := by
  cases e with
  | file content => rfl
  | link target => rfl
  | directory inner => cases flat

theorem mem_listKeptEntry {e : Entry} {visit : Visit} :
    visit ∈ fs.listKeptEntry scope p e ↔
      ¬ scope.excludes p e.isDirectory ∧
        (fs.Meets p e visit ∨ ∃ inner, e = .directory inner ∧ fs.pathExists p ∧
          visit ∈ fs.listKeptChildren (scope.enter (fs.directoryRules p)) p inner) := by
  cases flat : e.isDirectory with
  | false =>
    have other (inner : List (Bytes × Entry)) : e ≠ .directory inner := by
      rintro rfl
      cases flat
    rw [listKeptEntry_eq fs scope p flat]
    split <;> simp_all [mem_listEntry]
  | true =>
    obtain ⟨inner, rfl⟩ := isDirectory_iff.mp flat
    rw [listKeptEntry]
    split <;> simp_all [mem_inDirectory inner]

theorem mem_listKeptChildren {children : List (Bytes × Entry)} {visit : Visit} :
    visit ∈ fs.listKeptChildren scope p children ↔
      ∃ names e, Reaches children names e ∧ fs.Meets (names.foldl Path.join p) e visit ∧
        fs.Opens p names ∧ Spares (fs.ExcludedAt scope p) names e.isDirectory := by
  induction children using children_induction generalizing scope p with
  | nil => simp [listKeptChildren, reaches_nil]
  | cons name first rest inside ih =>
    rw [listKeptChildren, List.mem_append, ih, mem_listKeptEntry]
    constructor
    · rintro (⟨included, meets | ⟨inner, rfl, opens, listed⟩⟩ | ⟨names, e, reached, found⟩)
      · exact ⟨[name], first, .child List.mem_cons_self, meets, onTheWay_singleton,
          spares_singleton.mpr included⟩
      · obtain ⟨names, e, reached, meets, way, spared⟩ := (inside inner rfl).mp listed
        exact ⟨name :: names, e, .inside List.mem_cons_self reached, meets,
          (onTheWay_cons reached.ne_nil).mpr ⟨opens, way⟩,
          (spares_cons reached.ne_nil).mpr ⟨included, spared⟩⟩
      · exact ⟨names, e, reaches_cons.mpr (Or.inr reached), found⟩
    · rintro ⟨names, e, reached, meets, way, spared⟩
      rcases reaches_cons.mp reached with here | later
      · left
        rcases reaches_singleton.mp here with ⟨rfl, rfl⟩ | ⟨inner, names, rfl, rfl, deeper⟩
        · exact ⟨spares_singleton.mp spared, Or.inl meets⟩
        · obtain ⟨included, spared⟩ := (spares_cons deeper.ne_nil).mp spared
          obtain ⟨opens, way⟩ := (onTheWay_cons deeper.ne_nil).mp way
          exact ⟨included, Or.inr ⟨inner, rfl, opens,
            (inside inner rfl).mpr ⟨names, e, deeper, meets, way, spared⟩⟩⟩
      · exact Or.inr ⟨names, e, later, meets, way, spared⟩

theorem inDirectory_sublist {some all : List Visit} (part : some.Sublist all) :
    (fs.inDirectory p some).Sublist (fs.inDirectory p all) := by
  rw [inDirectory, inDirectory]
  split
  · exact List.Sublist.refl _
  · exact part

theorem listKeptChildren_sublist {children : List (Bytes × Entry)} :
    (fs.listKeptChildren scope p children).Sublist (fs.listChildren p children) := by
  induction children using children_induction generalizing scope p with
  | nil => exact List.Sublist.slnil
  | cons name first rest inside ih =>
    rw [listKeptChildren, listChildren]
    refine List.Sublist.append ?_ ih
    cases flat : first.isDirectory with
    | false =>
      rw [listKeptEntry_eq fs scope _ flat]
      split
      · exact List.nil_sublist _
      · exact List.Sublist.refl _
    | true =>
      obtain ⟨inner, rfl⟩ := isDirectory_iff.mp flat
      rw [listKeptEntry, listEntry]
      split
      · exact List.nil_sublist _
      · exact inDirectory_sublist (inside inner rfl)

/-! ## Rule files above the root -/

variable {location : Location}

/-- A rule file of a directory above the root has a pattern whose glob is malformed. -/
def FaultyAbove (fs : FileSystem) (location : Location) : Prop :=
  ∃ directory ∈ directoriesAbove location, ∃ file : RuleFile,
    ∃ numbered ∈ fs.patternsIn (file.path directory), ∃ error,
      Ignore.Rule.ofPattern numbered.2 = .error error

theorem fault?_eq_some {pattern : List Char} {error : Ignore.GlobError} :
    Ignore.Rule.fault? pattern = some error ↔ Ignore.Rule.ofPattern pattern = .error error := by
  rw [Ignore.Rule.fault?]
  cases Ignore.Rule.ofPattern pattern <;> simp

theorem faultsIn_eq_nil {file : Path} : fs.faultsIn file = [] ↔
    ∀ numbered ∈ fs.patternsIn file, Ignore.Rule.fault? numbered.2 = none := by
  rw [faultsIn, patternsIn]
  cases fs.readBytes file with
  | error error => simp
  | ok content =>
    dsimp only
    split
    · simp
    · rename_i faulty
      rw [Bool.or_eq_true, not_or, List.isEmpty_iff, List.filterMap_eq_nil_iff] at faulty
      simpa using faulty.1

theorem faultsAbove_eq_nil : fs.faultsAbove location = [] ↔ ¬ fs.FaultyAbove location := by
  have all (file : RuleFile) : file ∈ RuleFile.all := by cases file <;> decide
  simp only [faultsAbove, faultsOf, FaultyAbove, List.flatMap_eq_nil_iff, List.mem_reverse, all,
    forall_true_left, faultsIn_eq_nil, ← fault?_eq_some, ← Option.ne_none_iff_exists', not_exists,
    not_and, not_not]

/-! ## The search -/

/-- The rules that are in force for the entries of the root. -/
def rootScope (fs : FileSystem) (root : Path) (location : Location) : IgnoreScope :=
  (fs.ignoreScope root location).enter (fs.directoryRules root)

theorem scan_respecting_eq (fs : FileSystem) (root : Path) (kinds : List FileKind) :
    fs.scan root true kinds =
      match fs.resolve root with
      | .error _ => .error (.rootNotFound root)
      | .ok (location, .directory children) =>
        if root.Same (.ofString "-") then .ok []
        else if fs.faultsAbove location ≠ [] then
          .error (.walk root ("\n".intercalate (fs.faultsAbove location)))
        else DiscoveredFile.collect root kinds unopenedMessage
          (fs.listKeptChildren (fs.rootScope root location) root children)
      | .ok _ => .error (.notADirectory root) := by
  simp only [scan, discoverKept, openRoot]
  cases fs.resolve root with
  | error _ => rfl
  | ok found =>
    obtain ⟨location, e⟩ := found
    cases e with
    | file content => rfl
    | link target => rfl
    | directory children => rfl

variable {children : List (Bytes × Entry)} {kinds : List FileKind} {file : DiscoveredFile}

/-- Where the root leads to no directory, the two searches fail alike. -/
theorem scan_respecting_root_error :
    (fs.scan root true kinds = .error (.rootNotFound root) ↔
      fs.scan root false kinds = .error (.rootNotFound root)) ∧
    (fs.scan root true kinds = .error (.notADirectory root) ↔
      fs.scan root false kinds = .error (.notADirectory root)) := by
  rw [scan_respecting_eq, scan_eq]
  cases fs.resolve root with
  | error _ => simp
  | ok found =>
    obtain ⟨location, e⟩ := found
    cases e with
    | file content => simp
    | link target => simp
    | directory children =>
      dsimp only
      split_ifs <;> simp [collect_ne_root_error]

/-- The files of a search are told apart by their paths, so a part of them is in the same order. -/
theorem sort_sublist {some all : List Path} (part : some.Sublist all)
    (distinct : all.Pairwise fun p q => p.key ≠ q.key) :
    (DiscoveredFile.sort (some.filterMap (DiscoveredFile.select kinds))).Sublist
      (DiscoveredFile.sort (all.filterMap (DiscoveredFile.select kinds))) := by
  have : Std.Antisymm fun a b : DiscoveredFile => a.path.key < b.path.key :=
    ⟨fun a b less greater => (lt_asymm less greater).elim⟩
  refine List.sublist_of_subperm_of_pairwise ?_
    (DiscoveredFile.selected_ascends (distinct.sublist part))
    (DiscoveredFile.selected_ascends distinct)
  have selected := (part.filterMap (DiscoveredFile.select kinds)).subperm
  exact (List.mergeSort_perm _ _).subperm.trans
    (selected.trans (List.mergeSort_perm _ _).symm.subperm)

variable (leads : fs.resolve root = .ok (location, .directory children))
  (named : ¬ root.Same (.ofString "-"))

include leads named

theorem scan_respecting_of_faulty (faulty : fs.FaultyAbove location) :
    fs.scan root true kinds =
      .error (.walk root ("\n".intercalate (fs.faultsAbove location))) := by
  rw [scan_respecting_eq, leads]
  exact (if_neg named).trans (if_pos (mt faultsAbove_eq_nil.mp (not_not.mpr faulty)))

theorem sound_of_found {kept : List DiscoveredFile} (found : fs.scan root true kinds = .ok kept) :
    ¬ fs.FaultyAbove location := by
  intro faulty
  rw [scan_respecting_of_faulty leads named faulty] at found
  cases found

theorem scan_respecting_of_sound (sound : ¬ fs.FaultyAbove location) :
    fs.scan root true kinds = DiscoveredFile.collect root kinds unopenedMessage
      (fs.listKeptChildren (fs.rootScope root location) root children) := by
  rw [scan_respecting_eq, leads]
  exact (if_neg named).trans (if_neg (not_not.mpr (faultsAbove_eq_nil.mpr sound)))

omit named in
theorem unopened_mem_listKeptChildren {u : Unopened} :
    .unopened u ∈ fs.listKeptChildren scope root children ↔
      ∃ names, TooLong root children names ∧
        OnTheWay (fun front => ¬ TooLong root children front) names ∧
        Spares (fs.ExcludedAt scope root) names true ∧
        u = ⟨root.join (Path.relative names), .nameTooLong⟩ := by
  rw [mem_listKeptChildren]
  constructor
  · rintro ⟨names, e, reached, meets, way, spared⟩
    obtain ⟨long, rfl⟩ := (meets_unopened_iff leads reached).mp meets
    obtain ⟨inner, there⟩ := long.1
    cases reached.unique (wellFormed_of_resolve leads) there
    exact ⟨names, long, (opens_iff leads reached).mp way, spared, rfl⟩
  · rintro ⟨names, long, way, spared, rfl⟩
    obtain ⟨inner, reached⟩ := long.1
    exact ⟨names, _, reached, (meets_unopened_iff leads reached).mpr ⟨long, rfl⟩,
      (opens_iff leads reached).mpr way, spared⟩

variable (sound : ¬ fs.FaultyAbove location)

include sound

theorem scan_respecting_fails_iff :
    (∃ error, fs.scan root true kinds = .error error) ↔
      ∃ names, TooLong root children names ∧
        Spares (fs.ExcludedAt (fs.rootScope root location) root) names true := by
  rw [scan_respecting_of_sound leads named sound, DiscoveredFile.collect_fails_iff]
  simp only [unopened_mem_listKeptChildren leads]
  constructor
  · rintro ⟨u, names, long, -, spared, -⟩
    exact ⟨names, long, spared⟩
  · rintro ⟨names, long, spared⟩
    obtain ⟨front, rest, rfl, some, first, way⟩ := exists_first_long long
    refine ⟨_, front, first, way, ?_, rfl⟩
    by_cases last : rest = []
    · simpa [last] using spared
    · exact spared.front some last

theorem scan_respecting_walk_error {error : ScanError}
    (failed : fs.scan root true kinds = .error error) :
    ∃ names, TooLong root children names ∧
      OnTheWay (fun front => ¬ TooLong root children front) names ∧
      Spares (fs.ExcludedAt (fs.rootScope root location) root) names true ∧
      error = .walk root (unopenedMessage ⟨root.join (Path.relative names), .nameTooLong⟩) := by
  rw [scan_respecting_of_sound leads named sound] at failed
  obtain ⟨u, member, rfl⟩ := DiscoveredFile.unopened_of_collect failed
  obtain ⟨names, long, way, spared, rfl⟩ := (unopened_mem_listKeptChildren leads).mp member
  exact ⟨names, long, way, spared, rfl⟩

/-- Where the plain search does not fail, the search with rules does not either and finds a part. -/
theorem scan_respecting_sublist {plain : List DiscoveredFile}
    (found : fs.scan root false kinds = .ok plain) :
    ∃ kept, fs.scan root true kinds = .ok kept ∧ kept.Sublist plain := by
  rw [scan_of_directory leads] at found
  obtain ⟨all, listed, rfl⟩ := DiscoveredFile.collect_eq_ok.mp found
  have part : (fs.listKeptChildren (fs.rootScope root location) root children).Sublist
      (all.map .file) := listed ▸ listKeptChildren_sublist
  obtain ⟨some, within, kept⟩ := List.sublist_map_iff.mp part
  have distinct : (fs.listChildren root children).Pairwise fun a b => a.path.key ≠ b.path.key :=
    listChildren_distinct (wellFormed_of_resolve leads)
  rw [listed, List.pairwise_map] at distinct
  refine ⟨_, ?_, sort_sublist within distinct⟩
  rw [scan_respecting_of_sound leads named sound]
  exact DiscoveredFile.collect_eq_ok.mpr ⟨some, kept, rfl⟩

theorem mem_scan_respecting {kept : List DiscoveredFile}
    (found : fs.scan root true kinds = .ok kept) (file : DiscoveredFile) :
    file ∈ kept ↔
      ∃ names e, Reaches children names e ∧ file.path = root.join (Path.relative names) ∧
        fs.Lists file.path e ∧ FileKind.ofPath? file.path = some file.kind ∧ file.kind ∈ kinds ∧
        Spares (fs.ExcludedAt (fs.rootScope root location) root) names false := by
  have valid := wellFormed_of_resolve leads
  have joined {names : Location} {e : Entry} (reached : Reaches children names e) :
      names.foldl Path.join root = root.join (Path.relative names) :=
    Path.foldl_join (reached.proper valid) reached.ne_nil
  have opened : ¬ ∃ names, TooLong root children names ∧
      Spares (fs.ExcludedAt (fs.rootScope root location) root) names true := by
    rw [← scan_respecting_fails_iff leads named sound]
    rintro ⟨error, failed⟩
    exact nomatch found.symm.trans failed
  rw [scan_respecting_of_sound leads named sound] at found
  obtain ⟨paths, listed, rfl⟩ := DiscoveredFile.collect_eq_ok.mp found
  have member : file.path ∈ paths ↔
      .file file.path ∈ fs.listKeptChildren (fs.rootScope root location) root children := by
    simp [listed]
  rw [DiscoveredFile.mem_selected, member, mem_listKeptChildren]
  constructor
  · rintro ⟨⟨names, e, reached, meets, -, spared⟩, selected⟩
    obtain ⟨spelled, lists⟩ := meets_file.mp meets
    rw [lists.isDirectory_eq] at spared
    exact ⟨names, e, reached, spelled.trans (joined reached), spelled ▸ lists, selected.1,
      selected.2, spared⟩
  · rintro ⟨names, e, reached, spelled, lists, known, wanted, spared⟩
    have opens : fs.Opens root names := (opens_iff leads reached).mpr
      fun front rest some more cut long => opened ⟨front, long, (cut ▸ spared).front some more⟩
    refine ⟨⟨names, e, reached, ?_, opens, lists.isDirectory_eq ▸ spared⟩, known, wanted⟩
    rw [joined reached, meets_file]
    exact ⟨spelled, spelled ▸ lists⟩

/-- Whatever the rules of the directories below say, nothing is found below an excluded one. -/
theorem not_found_below {kept : List DiscoveredFile} (found : fs.scan root true kinds = .ok kept)
    {front : Location} {inner : List (Bytes × Entry)} {e : Entry}
    (way : Reaches children front (.directory inner))
    (excluded : fs.ExcludedAt (fs.rootScope root location) root front true)
    (reached : Reaches children names e) (within : front <+: names) (member : file ∈ kept) :
    ¬ file.path.Same (root.join (Path.relative names)) := by
  intro same
  have valid := wellFormed_of_resolve leads
  obtain ⟨names', e', reached', spelled, lists, -, -, spared⟩ :=
    (mem_scan_respecting leads named sound found file).mp member
  rw [spelled] at same
  cases names_eq_of_same valid reached' reached same
  cases reached.unique valid reached'
  obtain ⟨rest, rfl⟩ := within
  by_cases last : rest = []
  · subst last
    rw [List.append_nil] at reached
    cases reached.unique valid way
    exact lists
  · exact spared.2 front rest way.ne_nil last rfl excluded

end ProjectContext.FileSystem
