import ProjectContext.Proofs.Path.Classes
import ProjectContext.Proofs.Session.Stability

/-!
# What insights count

Insights are about the files of a session up to spelling: a file that the project lists more than
once, or that is registered under another spelling, counts once, and is shown as it was registered
(`insights_account_for_files`). The symbols are those of the texts in the cache, so a later context
map has the same.
-/

namespace ProjectContext

/-- A machine word holds a number modulo `2 ^ 64`, which is the number itself where it fits. -/
def Counts (w : UInt64) (n : Nat) : Prop := w.toNat = n % UInt64.size

theorem Counts.eq_of_lt {w : UInt64} {n : Nat} (counts : Counts w n) (fits : n < UInt64.size) :
    w.toNat = n :=
  counts.trans (Nat.mod_eq_of_lt fits)

theorem counts_toUInt64 (n : Nat) : Counts n.toUInt64 n := UInt64.toNat_ofNat'

theorem counts_sum (counts : List Nat) :
    Counts ((counts.map Nat.toUInt64).foldr (· + ·) 0) counts.sum := by
  induction counts with
  | nil => rfl
  | cons n counts ih =>
    have first := counts_toUInt64 n
    rw [Counts] at *
    rw [List.map_cons, List.foldr_cons, List.sum_cons, UInt64.toNat_add, first, ih]
    exact (Nat.add_mod n counts.sum _).symm

namespace Session

variable {s : Session} {source : Source} {m : ContextMap}

/-- The files of the project and the registered ones, each in whatever spelling. -/
def classes (s : Session) : Finset Path.Class :=
  Path.classesOf (s.files.map (·.path) ++ s.conversationFiles)

def cachedText? (s : Session) (p : Path) : Option String := (s.cache.get? p).map (·.text)

def symbolsAt (s : Session) (p : Path) : Symbols :=
  match s.cachedText? p with
  | some text => s.extractor.symbolsOfKind (projectKind s.files p) text
  | none => {}

theorem symbolsAt_congr {p q : Path} (same : p.Same q) (s : Session) :
    s.symbolsAt p = s.symbolsAt q := by
  rw [symbolsAt, symbolsAt, cachedText?, cachedText?, Cache.get?_congr same,
    projectKind_congr same]

def symbolsOf (s : Session) : Path.Class → Symbols :=
  Quotient.lift s.symbolsAt fun _ _ same => symbolsAt_congr same s

theorem classes_eq (s : Session) : s.classes = Path.classesOf s.members.keys := by
  apply Path.classesOf_congr
  intro p
  rw [mem_keys_members, isRegistered, PathMap.contains_iff_key]
  simp [conversationFiles, or_and_right, exists_or]

theorem symbolsAt_generated (made : (s.generate source).1 = .ok m) {e : Path × FileFacts}
    (member : e ∈ m.entries) :
    (s.generate source).2.symbolsAt e.1 = ⟨e.2.functions, e.2.classes⟩ := by
  obtain ⟨log, snd⟩ := generate_snd s source
  obtain ⟨content, held, facts⟩ := (generate_ok made).2 e member
  rw [symbolsAt, cachedText?, held, facts, snd]
  rfl

theorem classes_generated (made : (s.generate source).1 = .ok m) :
    s.classes = Path.classesOf m.keys := by
  rw [classes_eq, (generate_ok made).1]

theorem cachedText?_isSome (made : (s.generate source).1 = .ok m) {p : Path}
    (listed : p.toClass ∈ s.classes) : ((s.generate source).2.cachedText? p).isSome := by
  obtain ⟨settled, members⟩ := settled_generate made
  rw [classes_eq, ← members, Path.toClass_mem_classesOf] at listed
  obtain ⟨q, present, same⟩ := listed
  obtain ⟨content, held⟩ := Cache.contains_iff.mp (settled q present)
  have known : (s.generate source).2.cache.get? p = some content := by
    rw [← Cache.get?_congr same, held]
  simp [cachedText?, known]

theorem counts_symbols (made : (s.generate source).1 = .ok m) (count : Symbols → Nat) :
    Counts ((m.entries.map fun e => (count ⟨e.2.functions, e.2.classes⟩).toUInt64).foldr (· + ·) 0)
      (∑ c ∈ s.classes, count ((s.generate source).2.symbolsOf c)) := by
  have found (e : Path × FileFacts) (member : e ∈ m.entries) :
      count ⟨e.2.functions, e.2.classes⟩ = count ((s.generate source).2.symbolsOf e.1.toClass) :=
    congrArg count (symbolsAt_generated made member).symm
  rw [classes_generated made, ← m.sum_entries found]
  simpa [Function.comp_def] using
    counts_sum (m.entries.map fun e => count ⟨e.2.functions, e.2.classes⟩)

theorem insights_account_for_files (s : Session) (source : Source) {i : Insights}
    (told : (s.insights source).1 = .ok i) :
    let s' := (s.insights source).2
    i.conversationFiles.map (·.path) = s.conversationFiles ∧
    (∀ next, ∃ m, (s'.generate next).1 = .ok m ∧ ∀ f ∈ i.conversationFiles, ∃ facts,
      (f.path, facts) ∈ m.entries ∧ f.functions = facts.functions ∧ f.classes = facts.classes) ∧
    (∀ p, p.toClass ∈ s.classes → (s'.cachedText? p).isSome) ∧
    Counts i.totalFiles s.classes.card ∧
    Counts i.totalFunctions (∑ c ∈ s.classes, (s'.symbolsOf c).functions.length) ∧
    Counts i.totalClasses (∑ c ∈ s.classes, (s'.symbolsOf c).classes.length) ∧
    (s.report source).1 = .ok i.report := by
  intro s'
  cases made : (s.generate source).1 with
  | error failure =>
    rw [insights_eq, made] at told
    cases told
  | ok m =>
    rw [insights_eq, made] at told
    obtain rfl : Insights.ofContext m = i := Except.ok.inj told
    obtain ⟨settled, -⟩ := settled_generate made
    refine ⟨?_, fun next => ?_, fun p listed => ?_, ?_, ?_, ?_, ?_⟩
    · rw [← conversationEntries_paths made]
      simp [Insights.ofContext, Function.comp_def]
    · -- All files are in the cache now, so whatever `next` holds, the map is made again as it was.
      obtain ⟨m', again⟩ := settled.generate_ok next
      have later : (((s.generate source).2.run []).generate next).1 = .ok m' := again
      obtain rfl : m' = m := generate_again made rfl later
      refine ⟨m', again, fun f member => ?_⟩
      obtain ⟨e, mentioned, rfl⟩ := List.mem_map.mp member
      exact ⟨e.2, (List.mem_filter.mp mentioned).1, rfl, rfl⟩
    · exact cachedText?_isSome made listed
    · rw [classes_generated made, ← PathMap.size_eq_classes]
      exact counts_toUInt64 m.size
    · exact counts_symbols made (·.functions.length)
    · exact counts_symbols made (·.classes.length)
    · rw [report_eq, made]
      rfl

/-- The project lists the only file twice, and it is registered under a third spelling. -/
theorem respelled_file_counted_once :
    let python := (Convention.matcher? .python).toOption.map (·.toMatcher)
    let source : Source := .ofTexts (.ofList [(.ofString "d/a.py", "class A: pass")])
    let s₀ : Session := {
      root := .ofString "d", extractor := ⟨none, fun kind => if kind = .css then python else none⟩
      files := [⟨.ofString "d/a.py", .python⟩, ⟨.ofString "d//a.py", .css⟩] }
    let s := s₀.run [(source, .register (.ofString "d/./a.py"))]
    ∃ i, (s.insights source).1 = .ok i ∧ i.totalFiles.toNat = 1 ∧ i.totalClasses.toNat = 1 ∧
      i.conversationFiles.map (·.path) = [.ofString "d/./a.py"] := by
  intro python source s₀ s
  have listed : s.conversationFiles = [.ofString "d/./a.py"] := by decide +kernel
  have card : s.classes.card = 1 := by decide +kernel
  have found : ∑ c ∈ s.classes, ((s.insights source).2.symbolsOf c).classes.length = 1 := by
    decide +kernel
  have succeeds : (s.insights source).1.toBool := by decide +kernel
  cases told : (s.insights source).1 with
  | error failure =>
    rw [told] at succeeds
    cases succeeds
  | ok i =>
    obtain ⟨paths, -, -, files, -, classes, -⟩ := insights_account_for_files s source told
    rw [card] at files
    rw [found] at classes
    exact ⟨i, rfl, files.eq_of_lt (by decide), classes.eq_of_lt (by decide), paths.trans listed⟩

end Session

end ProjectContext
