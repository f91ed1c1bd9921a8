import ProjectContext.Proofs.Discovery.Exclusion
import ProjectContext.Proofs.Session.Runs

/-!
# How sessions start

The built-in patterns are patterns, so a session starts wherever its search succeeds (`start_eq`),
which is where its root leads to a directory and nothing obstructs the search (`started_iff`). The
files that it starts with are found below the root (`listed_of_scan`), each once (`scan_ascends`),
whether the search respects ignore rules or not.
-/

namespace ProjectContext

theorem Convention.matcher?_ok (c : Convention) : ∃ m, c.matcher? = .ok m := by
  have built : c.matcher?.toBool = true := by
    cases c <;> decide +kernel
  cases made : c.matcher? with
  | error error => simp [made, Except.toBool] at built
  | ok m => exact ⟨m, rfl⟩

theorem Extractor.ofMode_ok (mode : ExtractionMode) : ∃ x, Extractor.ofMode mode = .ok x := by
  cases mode with
  | uniform convention =>
    obtain ⟨m, made⟩ := convention.matcher?_ok
    exact ⟨_, by rw [ofMode, made]; rfl⟩
  | byFileKind =>
    obtain ⟨python, first⟩ := Convention.matcher?_ok .python
    obtain ⟨javaScript, second⟩ := Convention.matcher?_ok .javaScript
    obtain ⟨java, third⟩ := Convention.matcher?_ok .java
    exact ⟨_, by rw [ofMode, first, second, third]; rfl⟩

namespace FileSystem

open Entry

variable {fs : FileSystem} {root : Path} {respectIgnoreFiles : Bool} {kinds : List FileKind}
  {files : List DiscoveredFile} {location : Location} {children : List (Bytes × Entry)}

/-- What keeps a search of a directory from its end: a directory that the search has to enter and
whose path is too long, or a malformed pattern above the root. -/
def Obstructed (fs : FileSystem) (root : Path) (respectIgnoreFiles : Bool) (location : Location)
    (children : List (Bytes × Entry)) : Prop :=
  match respectIgnoreFiles with
  | false => ∃ names, TooLong root children names
  | true => ¬ root.Same (.ofString "-") ∧
      (fs.FaultyAbove location ∨ ∃ names, TooLong root children names ∧
        Spares (fs.ExcludedAt (fs.rootScope root location) root) names true)

theorem directory_of_scan (found : fs.scan root respectIgnoreFiles kinds = .ok files) :
    ∃ location children, fs.resolve root = .ok (location, .directory children) := by
  cases leads : fs.resolve root with
  | error _ => cases respectIgnoreFiles <;> simp [scan_eq, scan_respecting_eq, leads] at found
  | ok place =>
    obtain ⟨location, e⟩ := place
    cases e with
    | directory children => exact ⟨location, children, rfl⟩
    | file content => cases respectIgnoreFiles <;> simp [scan_eq, scan_respecting_eq, leads] at found
    | link target => cases respectIgnoreFiles <;> simp [scan_eq, scan_respecting_eq, leads] at found

theorem scan_of_hyphen (leads : fs.resolve root = .ok (location, .directory children))
    (hyphen : root.Same (.ofString "-")) : fs.scan root true kinds = .ok [] := by
  rw [scan_respecting_eq, leads]
  exact if_pos hyphen

theorem scan_of_obstructed (leads : fs.resolve root = .ok (location, .directory children))
    (obstructed : fs.Obstructed root respectIgnoreFiles location children) :
    ∃ message, fs.scan root respectIgnoreFiles kinds = .error (.walk root message) := by
  cases respectIgnoreFiles with
  | false =>
    obtain ⟨error, failed⟩ : ∃ error, fs.scan root false kinds = .error error :=
      (scan_fails_iff leads).mpr obstructed
    obtain ⟨names, -, -, rfl⟩ := scan_walk_error leads failed
    exact ⟨_, failed⟩
  | true =>
    obtain ⟨named, obstacle⟩ := obstructed
    by_cases faulty : fs.FaultyAbove location
    · exact ⟨_, scan_respecting_of_faulty leads named faulty⟩
    · obtain ⟨error, failed⟩ : ∃ error, fs.scan root true kinds = .error error :=
        (scan_respecting_fails_iff leads named faulty).mpr (obstacle.resolve_left faulty)
      obtain ⟨names, -, -, -, rfl⟩ := scan_respecting_walk_error leads named faulty failed
      exact ⟨_, failed⟩

theorem scan_of_unobstructed (leads : fs.resolve root = .ok (location, .directory children))
    (clear : ¬ fs.Obstructed root respectIgnoreFiles location children) :
    ∃ files, fs.scan root respectIgnoreFiles kinds = .ok files := by
  cases found : fs.scan root respectIgnoreFiles kinds with
  | ok files => exact ⟨files, rfl⟩
  | error error =>
    refine absurd ?_ clear
    cases respectIgnoreFiles with
    | false => exact (scan_fails_iff leads).mp ⟨error, found⟩
    | true =>
      have named : ¬ root.Same (.ofString "-") := by
        intro hyphen
        rw [scan_of_hyphen leads hyphen] at found
        cases found
      refine ⟨named, or_iff_not_imp_left.mpr fun sound => ?_⟩
      exact (scan_respecting_fails_iff leads named sound).mp ⟨error, found⟩

theorem scan_succeeds_iff : (∃ files, fs.scan root respectIgnoreFiles kinds = .ok files) ↔
    ∃ location children, fs.resolve root = .ok (location, .directory children) ∧
      ¬ fs.Obstructed root respectIgnoreFiles location children := by
  constructor
  · rintro ⟨files, found⟩
    obtain ⟨location, children, leads⟩ := directory_of_scan found
    refine ⟨location, children, leads, fun obstructed => ?_⟩
    obtain ⟨message, failed⟩ := scan_of_obstructed leads obstructed
    exact nomatch found.symm.trans failed
  · rintro ⟨location, children, leads, clear⟩
    exact scan_of_unobstructed leads clear

/-- The files of a search are selected from those below its root. -/
theorem scan_selects (found : fs.scan root respectIgnoreFiles kinds = .ok files) :
    ∃ location children, ∃ paths : List Path,
      fs.resolve root = .ok (location, .directory children) ∧
      (paths.map .file).Sublist (fs.listChildren root children) ∧
      files = DiscoveredFile.sort (paths.filterMap (DiscoveredFile.select kinds)) := by
  obtain ⟨location, children, leads⟩ := directory_of_scan found
  cases respectIgnoreFiles with
  | false =>
    rw [scan_of_directory leads] at found
    obtain ⟨paths, listed, rfl⟩ := DiscoveredFile.collect_eq_ok.mp found
    exact ⟨location, children, paths, leads, listed ▸ List.Sublist.refl _, rfl⟩
  | true =>
    by_cases hyphen : root.Same (.ofString "-")
    · rw [scan_of_hyphen leads hyphen, Except.ok.injEq] at found
      exact ⟨location, children, [], leads, List.nil_sublist _,
        by simp [← found, DiscoveredFile.sort]⟩
    · have sound := sound_of_found leads hyphen found
      rw [scan_respecting_of_sound leads hyphen sound] at found
      obtain ⟨paths, listed, rfl⟩ := DiscoveredFile.collect_eq_ok.mp found
      exact ⟨location, children, paths, leads, listed ▸ listKeptChildren_sublist, rfl⟩

theorem listed_of_scan (found : fs.scan root respectIgnoreFiles kinds = .ok files)
    {file : DiscoveredFile} (member : file ∈ files) :
    ∃ location children names e, fs.resolve root = .ok (location, .directory children) ∧
      Reaches children names e ∧ file.path = root.join (Path.relative names) ∧
      fs.Lists file.path e := by
  obtain ⟨location, children, paths, leads, part, rfl⟩ := scan_selects found
  have listed : .file file.path ∈ fs.listChildren root children :=
    part.subset (List.mem_map_of_mem (DiscoveredFile.mem_selected.mp member).1)
  obtain ⟨names, e, reached, meets, -⟩ := mem_listChildren.mp listed
  obtain ⟨spelled, lists⟩ := meets_file.mp meets
  rw [← spelled] at lists
  rw [Path.foldl_join (reached.proper (wellFormed_of_resolve leads)) reached.ne_nil] at spelled
  exact ⟨location, children, names, e, leads, reached, spelled, lists⟩

theorem scan_ascends (found : fs.scan root respectIgnoreFiles kinds = .ok files) :
    files.Pairwise fun a b => a.path.key < b.path.key := by
  obtain ⟨location, children, paths, leads, part, rfl⟩ := scan_selects found
  have distinct : (fs.listChildren root children).Pairwise fun a b => a.path.key ≠ b.path.key :=
    listChildren_distinct (wellFormed_of_resolve leads)
  have apart := distinct.sublist part
  rw [List.pairwise_map] at apart
  exact DiscoveredFile.selected_ascends apart

end FileSystem

theorem Session.start_eq (fs : FileSystem) (root : Path) (config : Config) :
    ∃ extractor, Extractor.ofMode config.mode = .ok extractor ∧
      Session.start fs root config =
        match fs.scan root config.respectIgnoreFiles config.mode.fileKinds with
        | .error error => .error (.scan error)
        | .ok files => .ok { root, files, extractor, policy := config.policy
                             log := [.discovered files.length root] } := by
  obtain ⟨extractor, built⟩ := Extractor.ofMode_ok config.mode
  refine ⟨extractor, built, ?_⟩
  rw [start, built]
  cases fs.scan root config.respectIgnoreFiles config.mode.fileKinds <;> rfl

theorem Session.start_of_obstructed {fs : FileSystem} {root : Path} {config : Config}
    {location : Location} {children : List (Bytes × Entry)}
    (leads : fs.resolve root = .ok (location, .directory children))
    (obstructed : fs.Obstructed root config.respectIgnoreFiles location children) :
    ∃ message, Session.start fs root config = .error (.scan (.walk root message)) := by
  obtain ⟨extractor, -, eq⟩ := Session.start_eq fs root config
  obtain ⟨message, failed⟩ : ∃ message,
      fs.scan root config.respectIgnoreFiles config.mode.fileKinds = .error (.walk root message) :=
    FileSystem.scan_of_obstructed leads obstructed
  exact ⟨message, by rw [eq, failed]⟩

/-- A session starts if its root leads to a directory and nothing obstructs the search. -/
theorem Session.started_iff {fs : FileSystem} {root : Path} {config : Config} :
    (∃ s, Session.start fs root config = .ok s) ↔
      ∃ location children, fs.resolve root = .ok (location, .directory children) ∧
        ¬ fs.Obstructed root config.respectIgnoreFiles location children := by
  obtain ⟨extractor, -, eq⟩ := Session.start_eq fs root config
  have scanned : (∃ files,
      fs.scan root config.respectIgnoreFiles config.mode.fileKinds = .ok files) ↔ _ :=
    FileSystem.scan_succeeds_iff
  rw [eq, ← scanned]
  cases fs.scan root config.respectIgnoreFiles config.mode.fileKinds <;> simp

end ProjectContext
