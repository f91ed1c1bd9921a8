import ProjectContext.Proofs.Session.Generation

/-!
# Context maps that last

Once a context map has been built, all its files are in the cache, and what it says of them holds
from then on (`generated_facts_last`). A session whose files are all in the cache is `Settled`: it
needs its source no more, and stays so until a path is registered that is new to it
(`settled_run`). Nothing is assumed of the session that a run begins with.
-/

namespace ProjectContext.Session

theorem facts_congr {s s' : Session} (fixed : Fixed s s') {p q : Path} (same : q.Same p)
    (content : Content) :
    s'.facts q (projectKind s'.files q) content =
      { s.facts p (projectKind s.files p) content with
        isConversationFile := s'.isRegistered p } := by
  rw [fixed.files, projectKind_congr same, facts, facts, fixed.extractor]
  congr 1
  exact PathMap.contains_congr same s'.registered

/-! ## Settled sessions -/

def Settled (s : Session) : Prop := ∀ p ∈ s.members.keys, s.cache.contains p

theorem settled_generate {s : Session} {source : Source} {m : ContextMap}
    (made : (s.generate source).1 = .ok m) :
    Settled (s.generate source).2 ∧ (s.generate source).2.members = s.members := by
  obtain ⟨keys, entries⟩ := generate_ok made
  obtain ⟨log, snd⟩ := generate_snd s source
  have members : (s.generate source).2.members = s.members := by rw [snd]; rfl
  refine ⟨fun p member => ?_, members⟩
  rw [members, ← keys] at member
  obtain ⟨e, present, rfl⟩ := PathMap.mem_keys.mp member
  obtain ⟨content, held, -⟩ := entries e present
  exact Cache.contains_iff.mpr ⟨content, held⟩

theorem Settled.cacheAfter_eq {s : Session} (settled : Settled s) (source : Source) :
    s.cacheAfter source = s.cache := by
  obtain ⟨contents, read⟩ := Cache.readAll_of_known settled source
  rw [cacheAfter, read]

theorem Settled.generate_ok {s : Session} (settled : Settled s) (source : Source) :
    ∃ m, (s.generate source).1 = .ok m := by
  obtain ⟨contents, read⟩ := Cache.readAll_of_known settled source
  rcases generate_eq s source with ⟨failure, failed, -⟩ | ⟨contents, m, -, made, -⟩
  · rw [read] at failed
    cases failed
  · exact ⟨m, made⟩

theorem Settled.after_cache {s : Session} (settled : Settled s) (source : Source)
    (request : Request) : (s.after source request).cache = s.cache := by
  rcases after_cases s source request with ⟨p, log, -, -, eq⟩ | ⟨p, log, -, -, eq⟩ | ⟨log, -, eq⟩
  · rw [eq]
  · rw [eq]
  · rw [eq]
    exact settled.cacheAfter_eq source

/-- Registering a path that a settled session has already leaves it settled on the same files. -/
theorem settled_after {s : Session} (settled : Settled s) (source : Source) (request : Request)
    (known : ∀ q ∈ accepted [(source, request)], s.members.contains q) :
    Settled (s.after source request) ∧
      ∀ p, (s.after source request).members.contains p ↔ s.members.contains p := by
  have files : ∀ p, (s.after source request).members.contains p ↔ s.members.contains p := by
    intro p
    have registered := isRegistered_run s [(source, request)] p
    rw [contains_members, contains_members, (after_fixed s source request).files]
    constructor
    · rintro (project | here)
      · exact .inl project
      · rcases registered.mp here with before | ⟨q, accepted, same⟩
        · exact .inr before
        · have held := known q accepted
          rw [PathMap.contains_congr same, contains_members] at held
          exact held
    · rintro (project | before)
      · exact .inl project
      · exact .inr (registered.mpr (.inl before))
  refine ⟨fun p member => ?_, files⟩
  have held := (files p).mp (PathMap.contains_iff_key.mpr ⟨p, member, Path.Same.refl p⟩)
  obtain ⟨key, present, same⟩ := PathMap.contains_iff_key.mp held
  rw [settled.after_cache, ← Cache.contains_congr same]
  exact settled key present

theorem settled_run {s : Session} (settled : Settled s) (requests : List (Source × Request))
    (known : ∀ q ∈ accepted requests, s.members.contains q) :
    Settled (s.run requests) ∧ (s.run requests).cache = s.cache := by
  induction requests generalizing s with
  | nil => exact ⟨settled, rfl⟩
  | cons request rest ih =>
    obtain ⟨source, request⟩ := request
    rw [accepted_cons] at known
    obtain ⟨next, files⟩ := settled_after settled source request fun q member =>
      known q (List.mem_append_left _ member)
    obtain ⟨last, cache⟩ := ih next fun q member =>
      (files q).mpr (known q (List.mem_append_right _ member))
    exact ⟨last, cache.trans (settled.after_cache source request)⟩

/-! ## What lasts -/

theorem entry_lasts {s : Session} {source : Source} {m : ContextMap}
    (made : (s.generate source).1 = .ok m) (later : List (Source × Request)) {next : Source}
    {m' : ContextMap} (again : (((s.generate source).2.run later).generate next).1 = .ok m')
    {e : Path × FileFacts} (member : e ∈ m.entries) :
    ∃ e' ∈ m'.entries, e'.1.Same e.1 ∧ e'.2 = { e.2 with
      isConversationFile := ((s.generate source).2.run later).isRegistered e.1 } := by
  obtain ⟨log, snd⟩ := generate_snd s source
  have fixed : Fixed s ((s.generate source).2.run later) :=
    (after_fixed s source .generate).trans (run_fixed _ later)
  have grown : (s.generate source).2.cache.Extends
      (((s.generate source).2.run later).generate next).2.cache :=
    (run_extends _ later).trans (after_extends _ next .generate)
  obtain ⟨keys, entries⟩ := generate_ok made
  obtain ⟨keys', entries'⟩ := generate_ok again
  obtain ⟨content, held, facts⟩ := entries e member
  have covered : ∃ key ∈ m'.keys, key.Same e.1 := by
    have before : ∃ key ∈ m.keys, key.Same e.1 :=
      ⟨e.1, PathMap.mem_keys.mpr ⟨e, member, rfl⟩, Path.Same.refl _⟩
    rw [keys, mem_keys_members] at before
    rw [keys', mem_keys_members, fixed.files]
    refine before.imp id fun registered => (isRegistered_run _ later e.1).mpr (.inl ?_)
    rw [snd]
    exact registered
  obtain ⟨key, present, same⟩ := covered
  obtain ⟨e', member', rfl⟩ := PathMap.mem_keys.mp present
  obtain ⟨content', held', facts'⟩ := entries' e' member'
  have equal : content' = content := by
    have still := grown e.1 content held
    rw [← Cache.get?_congr same, held'] at still
    exact Option.some.inj still
  exact ⟨e', member', same, by rw [facts', equal, facts_congr fixed same, ← facts]⟩

theorem flag_eq {s : Session} {source : Source} {m : ContextMap}
    (made : (s.generate source).1 = .ok m) {e : Path × FileFacts} (member : e ∈ m.entries) :
    e.2.isConversationFile = (s.generate source).2.isRegistered e.1 := by
  obtain ⟨log, snd⟩ := generate_snd s source
  obtain ⟨-, entries⟩ := generate_ok made
  obtain ⟨content, -, facts⟩ := entries e member
  rw [facts, snd]
  rfl

theorem generate_again {s : Session} {source : Source} {m : ContextMap}
    (made : (s.generate source).1 = .ok m) {later : List (Source × Request)}
    (none : accepted later = []) {next : Source} {m' : ContextMap}
    (again : (((s.generate source).2.run later).generate next).1 = .ok m') : m' = m := by
  obtain ⟨keys, -⟩ := generate_ok made
  obtain ⟨keys', -⟩ := generate_ok again
  obtain ⟨-, members⟩ := settled_generate made
  have registered : ((s.generate source).2.run later).registered =
      (s.generate source).2.registered := by
    rw [registered_run, none]
    rfl
  have same : ((s.generate source).2.run later).members = s.members := by
    rw [← members, Session.members, Session.members, (run_fixed _ later).files,
      conversationFiles, conversationFiles, registered]
  have equal : m.keys = m'.keys := by rw [keys, keys', same]
  refine (PathMap.ext_of_keys equal fun e member => ?_).symm
  obtain ⟨e', member', twin, facts⟩ := entry_lasts made later again member
  have unchanged : e' = e := by
    refine Prod.ext (PathMap.key_eq_of_same equal member member' twin) ?_
    rw [facts, isRegistered, registered, ← isRegistered, ← flag_eq made member]
  exact unchanged ▸ member'

theorem generated_facts_last (s : Session) (source : Source) {m : ContextMap}
    (made : (s.generate source).1 = .ok m) (later : List (Source × Request)) (next : Source) :
    let s' := (s.generate source).2.run later
    (∀ m', (s'.generate next).1 = .ok m' → ∀ e ∈ m.entries, ∃ e' ∈ m'.entries, e'.1.Same e.1 ∧
      e'.2.functions = e.2.functions ∧ e'.2.classes = e.2.classes ∧
      e'.2.contentHash = e.2.contentHash ∧
      (e'.2.isConversationFile ↔ e.2.isConversationFile ∨ ∃ q ∈ accepted later, q.Same e.1)) ∧
    ((∀ q ∈ accepted later, m.contains q) →
      s'.cache = (s.generate source).2.cache ∧
      (s'.generate next).2.cache = s'.cache ∧ (s'.insights next).2.cache = s'.cache ∧
      (s'.report next).2.cache = s'.cache ∧
      ∃ m', (s'.generate next).1 = .ok m' ∧ (s'.insights next).1 = .ok (.ofContext m') ∧
        (s'.report next).1 = .ok (Insights.ofContext m').report ∧
        (accepted later = [] → m' = m)) := by
  intro s'
  constructor
  · intro m' again e member
    obtain ⟨e', member', same, facts⟩ := entry_lasts made later again member
    refine ⟨e', member', same, ?_⟩
    rw [facts, flag_eq made member]
    exact ⟨rfl, rfl, rfl, isRegistered_run _ later e.1⟩
  · intro known
    obtain ⟨keys, -⟩ := generate_ok made
    obtain ⟨settled, members⟩ := settled_generate made
    obtain ⟨settled', cache⟩ := settled_run settled later fun q member => by
      have held := known q member
      rwa [PathMap.contains_iff_key, keys, ← members, ← PathMap.contains_iff_key] at held
    obtain ⟨m', again⟩ := settled'.generate_ok next
    refine ⟨cache, settled'.after_cache next .generate, settled'.after_cache next .insights,
      settled'.after_cache next .report, m', again, ?_, ?_, fun none => ?_⟩
    · rw [insights_eq, again]
      rfl
    · rw [report_eq, again]
      rfl
    · exact generate_again made none again

/-- The only file is deleted after the first context map; one path is refused, and one registered
under a new spelling. -/
theorem deleted_file_stays_described :
    let full : Source := .ofTexts (.ofList [(.ofString "d/a.py", "x = 1")])
    let gone : Source := .ofTexts .empty
    let s : Session := {
      root := .ofString "d", extractor := .empty, files := [⟨.ofString "d/a.py", .python⟩] }
    let later := [(gone, .register (.ofString "d/b.py")), (full, .register (.ofString "d//a.py")),
      (gone, .report)]
    ∃ m, (s.generate full).1 = .ok m ∧ (∀ q ∈ accepted later, m.contains q) ∧
      ((s.generate full).2.run later).cache = (s.generate full).2.cache ∧
      ∃ m', (((s.generate full).2.run later).generate gone).1 = .ok m' := by
  intro full gone s later
  have made : (s.generate full).1 = .ok (PathMap.ofList [(.ofString "d/a.py",
      ⟨[], [], false, Sha256.hexDigest "x = 1"⟩)]) := rfl
  have known : ∀ q ∈ accepted later, PathMap.contains (PathMap.ofList [(Path.ofString "d/a.py",
      FileFacts.mk [] [] false (Sha256.hexDigest "x = 1"))]) q := by
    intro q member
    rw [List.mem_singleton.mp (show q ∈ [Path.ofString "d//a.py"] from member)]
    rfl
  obtain ⟨cache, -, -, -, m', again, -⟩ := (generated_facts_last s full made later gone).2 known
  exact ⟨_, made, known, cache, m', again⟩

end ProjectContext.Session
