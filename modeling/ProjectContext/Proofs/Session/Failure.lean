import ProjectContext.Proofs.Cache.InOrder
import ProjectContext.Proofs.Session.Generation

/-!
# Context maps that cannot be built

A file of the context that is not in the cache is `Awaited`. A generation asks the source for the
awaited files in the order of their paths and fails at the first that the source refuses
(`generate_fails_at_first_unreadable`); what it has read by then stays read.
-/

namespace ProjectContext.Session

variable {s : Session} {source : Source} {p : Path}

/-- A file of the context that has not been read yet, as it would be spelled in the context map. -/
def Awaited (s : Session) (p : Path) : Prop :=
  p.firstIn (s.conversationFiles ++ s.files.map (·.path)) = some p ∧ ¬ s.cache.contains p

theorem spelling?_members_eq_firstIn (s : Session) (p : Path) :
    s.members.spelling? p = p.firstIn (s.conversationFiles ++ s.files.map (·.path)) := by
  rw [spelling?_members, PathMap.spelling?_eq_firstIn, Path.firstIn, Path.firstIn, Path.firstIn,
    List.find?_append]
  rfl

theorem mem_unknown_members : p ∈ s.cache.unknown s.members.keys ↔ s.Awaited p := by
  rw [Cache.mem_unknown, Awaited, ← spelling?_members_eq_firstIn, PathMap.spelling?_eq_self]

theorem awaited_ascend (s : Session) :
    (s.cache.unknown s.members.keys).Pairwise fun p q => p.key < q.key :=
  s.members.keys_ascend.filter _

/-- A generation reads every awaited file, or all up to the first one that cannot be read. -/
theorem generate_cases (s : Session) (source : Source) :
    ((∃ m, (s.generate source).1 = .ok m) ∧
      (∀ p, s.Awaited p → ∃ text, source.read p = .ok text) ∧
      (s.generate source).2.cache.attempts =
        s.cache.attempts ++ s.cache.unknown s.members.keys) ∨
    ∃ before p rest error, s.cache.unknown s.members.keys = before ++ p :: rest ∧
      (s.generate source).1 = .error ⟨p, error⟩ ∧ source.read p = .error error ∧
      (∀ q ∈ before, ∃ text, source.read q = .ok text) ∧
      (s.generate source).2.cache.attempts = s.cache.attempts ++ (before ++ [p]) ∧
      s.cache.Learnt source before (s.generate source).2.cache := by
  obtain ⟨log, snd⟩ := generate_snd s source
  have cache : (s.generate source).2.cache = (s.cache.readAll source s.members.keys).2 := by
    rw [snd]
    rfl
  rw [cache]
  rcases Cache.readAll_cases s.cache source s.members.keys_ascend with
    ⟨⟨contents, read⟩, readable, attempts, -⟩ | ⟨before, p, rest, error, cut, read, others⟩
  · left
    refine ⟨?_, fun p awaited => readable p (mem_unknown_members.mpr awaited), attempts⟩
    rcases generate_eq s source with ⟨failure, failed, -⟩ | ⟨-, m, -, made, -⟩
    · rw [read] at failed
      cases failed
    · exact ⟨m, made⟩
  · right
    refine ⟨before, p, rest, error, cut, ?_, others⟩
    rcases generate_eq s source with ⟨failure, failed, made⟩ | ⟨contents, -, done, -, -⟩
    · obtain rfl : failure = ⟨p, error⟩ := Except.error.inj (failed.symm.trans read)
      exact made
    · rw [read] at done
      cases done

/-! A list in strict order splits at an element into the smaller ones and the greater ones. -/

section Split

variable {before rest : List Path} {q : Path}

theorem mem_before_iff (ascending : (before ++ p :: rest).Pairwise fun p q => p.key < q.key) :
    q ∈ before ↔ q ∈ before ++ p :: rest ∧ q.key < p.key := by
  obtain ⟨-, behind, less⟩ := List.pairwise_append.mp ascending
  constructor
  · exact fun member => ⟨List.mem_append_left _ member, less q member p List.mem_cons_self⟩
  · rintro ⟨member, smaller⟩
    rcases List.mem_append.mp member with member | member
    · exact member
    · rcases List.mem_cons.mp member with rfl | later
      · exact absurd smaller (lt_irrefl _)
      · exact absurd smaller ((List.pairwise_cons.mp behind).1 q later).not_gt

theorem mem_upTo_iff (ascending : (before ++ p :: rest).Pairwise fun p q => p.key < q.key) :
    q ∈ before ++ [p] ↔ q ∈ before ++ p :: rest ∧ q.key ≤ p.key := by
  rw [List.mem_append, List.mem_singleton, mem_before_iff ascending]
  constructor
  · rintro (⟨member, less⟩ | rfl)
    · exact ⟨member, less.le⟩
    · exact ⟨List.mem_append_right _ List.mem_cons_self, le_rfl⟩
  · rintro ⟨member, least⟩
    rcases least.lt_or_eq with less | equal
    · exact .inl ⟨member, less⟩
    · obtain ⟨-, behind, less⟩ := List.pairwise_append.mp ascending
      rcases List.mem_append.mp member with member | member
      · exact absurd equal (less q member p List.mem_cons_self).ne
      · rcases List.mem_cons.mp member with rfl | later
        · exact .inr rfl
        · exact absurd equal ((List.pairwise_cons.mp behind).1 q later).ne'

end Split

theorem generate_reads_awaited (s : Session) (source : Source) :
    ∃ reads, (s.generate source).2.cache.attempts = s.cache.attempts ++ reads ∧
      ∀ p ∈ reads, s.Awaited p := by
  rcases generate_cases s source with ⟨-, -, attempts⟩ | ⟨before, p, rest, -, cut, -, -, -, attempts, -⟩
  · exact ⟨_, attempts, fun p member => mem_unknown_members.mp member⟩
  · refine ⟨_, attempts, fun q member => mem_unknown_members.mp ?_⟩
    rw [cut]
    rcases List.mem_append.mp member with member | member
    · exact List.mem_append_left _ member
    · rw [List.mem_singleton.mp member]
      exact List.mem_append_right _ List.mem_cons_self

theorem generate_fails_iff (s : Session) (source : Source) :
    (∃ failure, (s.generate source).1 = .error failure) ↔
      ∃ p, s.Awaited p ∧ ∃ error, source.read p = .error error := by
  rcases generate_cases s source with ⟨⟨m, made⟩, readable, -⟩ | ⟨before, p, rest, error, cut, made, refused, -⟩
  · constructor
    · rintro ⟨failure, failed⟩
      rw [made] at failed
      cases failed
    · rintro ⟨p, awaited, error, refused⟩
      obtain ⟨text, given⟩ := readable p awaited
      rw [refused] at given
      cases given
  · have member : p ∈ s.cache.unknown s.members.keys := by simp [cut]
    exact ⟨fun _ => ⟨p, mem_unknown_members.mp member, error, refused⟩, fun _ => ⟨_, made⟩⟩

theorem generate_fails_at_first_unreadable (s : Session) (source : Source) :
    ((∃ failure, (s.generate source).1 = .error failure) ↔
      ∃ p, s.Awaited p ∧ ∃ error, source.read p = .error error) ∧
    ∀ failure, (s.generate source).1 = .error failure →
      let after := (s.generate source).2
      (s.Awaited failure.path ∧ source.read failure.path = .error failure.error ∧
        ∀ p, s.Awaited p → p.key < failure.path.key → ∃ text, source.read p = .ok text) ∧
      (after.root = s.root ∧ after.files = s.files ∧ after.registered = s.registered ∧
        after.policy = s.policy) ∧
      (∀ p content, after.cache.get? p = some content ↔
        s.cache.get? p = some content ∨
          ∃ q, s.Awaited q ∧ q.key < failure.path.key ∧ q.Same p ∧
            ∃ text, source.read q = .ok text ∧ content = .ofText text) ∧
      (∃ reads, after.cache.attempts = s.cache.attempts ++ reads ∧
        reads.Pairwise (fun p q => p.key < q.key) ∧
        ∀ p, p ∈ reads ↔ s.Awaited p ∧ p.key ≤ failure.path.key) ∧
      ∀ (later : List (Source × Request)) (next : Source),
        (∃ reads, ((after.run later).generate next).2.cache.attempts =
            (after.run later).cache.attempts ++ reads ∧
          ∀ p ∈ reads, ¬ after.cache.contains p) ∧
        ((∀ p, (after.run later).Awaited p → ∃ text, next.read p = .ok text) →
          ∃ m, ((after.run later).generate next).1 = .ok m) := by
  refine ⟨generate_fails_iff s source, fun failure failed => ?_⟩
  intro after
  have ascending := awaited_ascend s
  rcases generate_cases s source with ⟨⟨m, made⟩, -⟩ |
    ⟨before, p, rest, error, cut, made, refused, readable, attempts, learnt⟩
  · rw [made] at failed
    cases failed
  rw [made, Except.error.injEq] at failed
  subst failed
  rw [cut] at ascending
  have smaller (q : Path) : q ∈ before ↔ s.Awaited q ∧ q.key < p.key := by
    rw [mem_before_iff ascending, ← cut, mem_unknown_members]
  have here : s.Awaited p := mem_unknown_members.mp (by simp [cut])
  refine ⟨⟨here, refused, fun q awaited less => readable q ((smaller q).mpr ⟨awaited, less⟩)⟩, ?_,
    fun q content => ?_, ⟨before ++ [p], attempts, ?_, fun q => ?_⟩, fun later next => ⟨?_, ?_⟩⟩
  · obtain ⟨log, snd⟩ := generate_snd s source
    show (s.generate source).2.root = _ ∧ (s.generate source).2.files = _ ∧
      (s.generate source).2.registered = _ ∧ (s.generate source).2.policy = _
    rw [snd]
    exact ⟨rfl, rfl, rfl, rfl⟩
  · refine (learnt q content).trans (or_congr_right (exists_congr fun r => ?_))
    rw [smaller, and_assoc]
  · exact ascending.sublist (List.Sublist.append_left (List.singleton_sublist.mpr (by simp)) before)
  · rw [mem_upTo_iff ascending, ← cut, mem_unknown_members]
  · obtain ⟨reads, grown, awaited⟩ := generate_reads_awaited (after.run later) next
    exact ⟨reads, grown, fun q member known =>
      (awaited q member).2 ((run_extends after later).contains known)⟩
  · intro all
    rcases generate_cases (after.run later) next with ⟨done, -⟩ |
      ⟨first, q, others, error, cut, -, refused, -⟩
    · exact done
    · have member : q ∈ (after.run later).cache.unknown (after.run later).members.keys := by
        simp [cut]
      obtain ⟨text, given⟩ := all q (mem_unknown_members.mp member)
      rw [refused] at given
      cases given

/-- The second of three files is missing, so the third is not asked for; the registered spelling of the
first is the one that was read, and the retry asks for the second and the third. -/
theorem missing_file_ends_generation :
    let part : Source := .ofTexts (.ofList [(.ofString "d/a.py", "x"), (.ofString "d/c.py", "z")])
    let all : Source := .ofTexts (.ofList [(.ofString "d/a.py", "x"), (.ofString "d/b.py", "y"),
      (.ofString "d/c.py", "z")])
    let s : Session := {
      root := .ofString "d", extractor := .empty
      files := [⟨.ofString "d/a.py", .python⟩, ⟨.ofString "d/b.py", .python⟩,
        ⟨.ofString "d/c.py", .python⟩]
      registered := .ofList [(.ofString "d//a.py", ())] }
    (s.generate part).1 = .error ⟨.ofString "d/b.py", .absent⟩ ∧
      s.Awaited (.ofString "d/b.py") ∧
      ∃ reads, (((s.generate part).2.run []).generate all).2.cache.attempts =
          ((s.generate part).2.run []).cache.attempts ++ reads ∧
        ∀ p ∈ reads, ¬ (s.generate part).2.cache.contains p := by
  intro part all s
  have failed : (s.generate part).1 = .error ⟨.ofString "d/b.py", .absent⟩ := rfl
  obtain ⟨⟨awaited, -⟩, -, -, -, retry⟩ := (generate_fails_at_first_unreadable s part).2 _ failed
  exact ⟨failed, awaited, (retry [] all).1⟩

end ProjectContext.Session
