import ProjectContext.Proofs.Session.Failure
import ProjectContext.Proofs.Session.Stability

/-!
# How generations end

A generation depends on its cache and its source only through what the session can get of each file
(`available`): it fails at the first file of which it can get nothing, and makes each entry of what
it gets (`generate_outcome`). So sessions that can get the same of the same files end alike
(`generate_agree`), and over a source that answers all spellings of a path alike a context map can
be looked up file by file (`get?_generated`).
-/

namespace ProjectContext

theorem Source.ofTexts_uniform (texts : PathMap String) : (Source.ofTexts texts).Uniform := by
  intro p q same
  simp [Source.ofTexts, PathMap.contains_congr same, PathMap.get?_congr same]

namespace Session

variable {s t : Session} {source : Source} {m : ContextMap}

/-- What reading a file gives: its content in the cache, or else what the source answers. -/
def available (s : Session) (source : Source) (p : Path) : Except AccessError Content :=
  match s.cache.get? p with
  | some content => .ok content
  | none => (source.read p).map .ofText

theorem available_of_known {p : Path} {content : Content} (known : s.cache.get? p = some content) :
    s.available source p = .ok content := by
  rw [available, known]

theorem available_of_unknown {p : Path} (unknown : s.cache.get? p = none) :
    s.available source p = (source.read p).map .ofText := by
  rw [available, unknown]

theorem available_congr (uniform : source.Uniform) {p q : Path} (same : p.Same q) :
    s.available source p = s.available source q := by
  rw [available, available, Cache.get?_congr same, (uniform p q same).2]

/-! ## One generation -/

/-- What a request adds to the cache comes from reads of awaited files. -/
theorem after_learnt (s : Session) (source : Source) (request : Request) :
    ∃ reads, (∀ p ∈ reads, s.Awaited p) ∧
      s.cache.Learnt source reads (s.after source request).cache := by
  have unread : s.cache.Learnt source [] s.cache := Cache.Learnt.nil s.cache source s.cache.attempts
  rcases after_cases s source request with ⟨p, log, -, -, eq⟩ | ⟨p, log, -, -, eq⟩ | ⟨log, -, eq⟩
  · rw [eq]
    exact ⟨[], nofun, unread⟩
  · rw [eq]
    exact ⟨[], nofun, unread⟩
  · rw [eq]
    obtain ⟨reads, unknown, learnt⟩ :=
      Cache.readAll_learnt s.cache source s.members.keys_ascend
    exact ⟨reads, fun p member => mem_unknown_members.mp (unknown p member), learnt⟩

/-- A file of the context is read, if at all, under the spelling that it has there. -/
theorem available_of_generated {p : Path} {content : Content} (listed : p ∈ s.members.keys)
    (held : (s.generate source).2.cache.get? p = some content) :
    s.available source p = .ok content := by
  obtain ⟨reads, awaited, learnt⟩ := after_learnt s source .generate
  cases known : s.cache.get? p with
  | some before =>
    have kept := (learnt p before).mpr (.inl known)
    rw [available_of_known known]
    exact congrArg Except.ok (Option.some.inj (kept.symm.trans held))
  | none =>
    rcases (learnt p content).mp held with before | ⟨q, member, same, text, given, rfl⟩
    · rw [known] at before
      cases before
    -- The read was of a spelling that the context has, and it has one of each file.
    · have spelled : s.members.spelling? q = some q :=
        (spelling?_members_eq_firstIn s q).trans (awaited q member).1
      have equal : p = q := by
        rw [PathMap.spelling?, PathMap.find?_congr same, ← PathMap.spelling?,
          PathMap.spelling?_eq_self.mpr listed] at spelled
        exact Option.some.inj spelled
      rw [available_of_unknown known, equal, given]
      rfl

theorem generate_outcome (s : Session) (source : Source) :
    (∃ m, (s.generate source).1 = .ok m ∧ m.keys = s.members.keys ∧
      ∀ e ∈ m.entries, ∃ content, s.available source e.1 = .ok content ∧
        e.2 = s.facts e.1 (projectKind s.files e.1) content) ∨
    ∃ failure, (s.generate source).1 = .error failure ∧ failure.path ∈ s.members.keys ∧
      s.available source failure.path = .error failure.error ∧
      ∀ p ∈ s.members.keys, p.key < failure.path.key →
        ∃ content, s.available source p = .ok content := by
  rcases generate_cases s source with ⟨⟨m, made⟩, -⟩ |
    ⟨before, p, rest, error, cut, made, refused, readable, -⟩
  · obtain ⟨keys, entries⟩ := generate_ok made
    refine .inl ⟨m, made, keys, fun e member => ?_⟩
    obtain ⟨content, held, facts⟩ := entries e member
    have listed : e.1 ∈ s.members.keys := keys ▸ PathMap.mem_keys.mpr ⟨e, member, rfl⟩
    exact ⟨content, available_of_generated listed held, facts⟩
  · have ascending := awaited_ascend s
    rw [cut] at ascending
    have asked : p ∈ s.cache.unknown s.members.keys := by simp [cut]
    obtain ⟨listed, unknown⟩ := Cache.mem_unknown.mp asked
    refine .inr ⟨⟨p, error⟩, made, listed, ?_, fun q member less => ?_⟩
    · rw [available_of_unknown (Cache.get?_eq_none.mpr unknown), refused]
      rfl
    · cases known : s.cache.get? q with
      | some content => exact ⟨content, available_of_known known⟩
      | none =>
        have asked : q ∈ before ++ p :: rest :=
          cut ▸ Cache.mem_unknown.mpr ⟨member, Cache.get?_eq_none.mp known⟩
        obtain ⟨text, given⟩ := readable q ((mem_before_iff ascending).mpr ⟨asked, less⟩)
        rw [available_of_unknown known, given]
        exact ⟨.ofText text, rfl⟩

theorem generate_succeeds_iff (s : Session) (source : Source) :
    (∃ m, (s.generate source).1 = .ok m) ↔
      ∀ p ∈ s.members.keys, ∃ content, s.available source p = .ok content := by
  rcases generate_outcome s source with ⟨m, made, keys, entries⟩ |
    ⟨failure, made, listed, refused, -⟩
  · refine ⟨fun _ p member => ?_, fun _ => ⟨m, made⟩⟩
    obtain ⟨e, present, rfl⟩ := PathMap.mem_keys.mp (keys ▸ member)
    obtain ⟨content, given, -⟩ := entries e present
    exact ⟨content, given⟩
  · constructor
    · rintro ⟨m, done⟩
      rw [made] at done
      cases done
    · intro all
      obtain ⟨content, given⟩ := all failure.path listed
      rw [refused] at given
      cases given

/-! ## Two sessions -/

/-- The sessions are about the same files, up to spelling, and can get the same of each. -/
structure Alike (s t : Session) (source : Source) : Prop where
  files : ∀ p, s.members.contains p ↔ t.members.contains p
  available : ∀ p q, p.Same q → s.available source p = t.available source q

theorem Alike.symm (alike : Alike s t source) : Alike t s source where
  files p := (alike.files p).symm
  available p q same := (alike.available q p same.symm).symm

theorem Alike.twin (alike : Alike s t source) {p : Path} (listed : p ∈ s.members.keys) :
    ∃ q ∈ t.members.keys, q.Same p :=
  PathMap.contains_iff_key.mp <|
    (alike.files p).mp (PathMap.contains_iff_key.mpr ⟨p, listed, Path.Same.refl p⟩)

theorem Alike.succeeds (alike : Alike s t source) (made : ∃ m, (s.generate source).1 = .ok m) :
    ∃ m, (t.generate source).1 = .ok m := by
  rw [generate_succeeds_iff] at made ⊢
  intro p listed
  obtain ⟨q, twin, same⟩ := alike.symm.twin listed
  rw [← alike.available q p same]
  exact made q twin

theorem Alike.not_before (alike : Alike s t source) {p q : Path} (listed : p ∈ s.members.keys)
    {error : AccessError} (refused : s.available source p = .error error)
    (first : ∀ r ∈ t.members.keys, r.key < q.key → ∃ content, t.available source r = .ok content) :
    ¬ p.key < q.key := by
  intro less
  obtain ⟨r, twin, same⟩ := alike.twin listed
  rw [← Path.same_iff_key_eq.mp same] at less
  obtain ⟨content, given⟩ := first r twin less
  rw [← alike.available p r same.symm, refused] at given
  cases given

theorem generate_agree (alike : Alike s t source) :
    (∃ m n, (s.generate source).1 = .ok m ∧ (t.generate source).1 = .ok n) ∨
    ∃ f g, (s.generate source).1 = .error f ∧ (t.generate source).1 = .error g ∧
      f.path.Same g.path ∧ f.error = g.error := by
  rcases generate_outcome s source with ⟨m, made, -⟩ | ⟨f, failed, listed, refused, first⟩
  · obtain ⟨n, done⟩ := alike.succeeds ⟨m, made⟩
    exact .inl ⟨m, n, made, done⟩
  · rcases generate_outcome t source with ⟨n, done, -⟩ | ⟨g, failed', listed', refused', first'⟩
    · obtain ⟨m, made⟩ := alike.symm.succeeds ⟨n, done⟩
      exact .inl ⟨m, n, made, done⟩
    -- Neither failure is before the other one, since both sessions ask in the order of the keys.
    · have same : f.path.Same g.path := Path.same_iff_key_eq.mpr <|
        Std.Trichotomous.trichotomous _ _ (alike.not_before listed refused first')
          (alike.symm.not_before listed' refused' first)
      rw [alike.available _ _ same, refused', Except.error.injEq] at refused
      exact .inr ⟨f, g, failed, failed', same, refused.symm⟩

/-! ## The context map file by file -/

theorem spelling?_generated (made : (s.generate source).1 = .ok m) (p : Path) :
    m.spelling? p = s.members.spelling? p := by
  rw [PathMap.spelling?_eq_firstIn, PathMap.spelling?_eq_firstIn, (generate_ok made).1]

theorem contains_generated (made : (s.generate source).1 = .ok m) (p : Path) :
    m.contains p = s.members.contains p := by
  rw [PathMap.contains_eq_isSome_spelling?, PathMap.contains_eq_isSome_spelling?,
    spelling?_generated made]

/-- What the context map says of each file, whatever the spelling under which it is looked up. -/
theorem get?_generated (uniform : source.Uniform) (made : (s.generate source).1 = .ok m) {p : Path}
    (member : s.members.contains p) : ∃ content, s.available source p = .ok content ∧
      m.get? p = some (s.facts p (projectKind s.files p) content) := by
  rw [← contains_generated made] at member
  obtain ⟨e, present, same⟩ := PathMap.contains_iff.mp member
  rcases generate_outcome s source with ⟨m', made', -, entries⟩ | ⟨failure, failed, -⟩
  · obtain rfl : m = m' := Except.ok.inj (made.symm.trans made')
    obtain ⟨content, given, facts⟩ := entries e present
    refine ⟨content, (available_congr uniform same).symm.trans given, ?_⟩
    rw [← PathMap.get?_congr same, PathMap.get?_of_mem present, facts]
    exact congrArg some (facts_congr ⟨rfl, rfl, rfl, rfl⟩ same content)
  · rw [failed] at made
    cases made

end Session

end ProjectContext
