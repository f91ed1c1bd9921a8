import ProjectContext.Proofs.Cache.Digest
import ProjectContext.Proofs.Cache.Reading

/-!
# What a cache knows of its history

A run is a list of calls, each with the source as it is at the time; nothing is assumed about how
the sources differ. `Recorded` ties the contents of a cache to the reads that were made of the
sources. One call keeps it (`recorded_answer`), hence every run does (`recorded_run`), and the law
of reading once (`each_file_read_once`) follows.
-/

namespace ProjectContext.Cache

inductive Call
  | read (p : Path)
  | contains (p : Path)
  | holds (p : Path)
  | size

inductive Answer
  | content (result : Except ReadFailure Content)
  | truth (b : Bool)
  | count (n : Nat)

def answer (c : Cache) (source : Source) : Call → Answer × Cache
  | .read p =>
    let (result, c) := c.read source p
    (.content result, c)
  | .contains p => (.truth (c.contains p), c)
  | .holds p => (.truth (source.holds p), c)
  | .size => (.count c.size, c)

def run (c : Cache) (calls : List (Source × Call)) : Cache :=
  calls.foldl (fun c call => (c.answer call.1 call.2).2) c

/-- A read that was made of a source, and what the source gave. -/
structure SourceRead where
  path : Path
  outcome : Except AccessError String

def SourceRead.succeeded (r : SourceRead) : Bool := r.outcome.isOk

def readsBy (c : Cache) (source : Source) (call : Call) : List SourceRead :=
  ((c.answer source call).2.attempts.drop c.attempts.length).map fun p => ⟨p, source.read p⟩

def sourceReads (c : Cache) : List (Source × Call) → List SourceRead
  | [] => []
  | (source, call) :: rest => c.readsBy source call ++ (c.answer source call).2.sourceReads rest

theorem SourceRead.succeeded_iff {r : SourceRead} : r.succeeded ↔ ∃ text, r.outcome = .ok text := by
  cases outcome : r.outcome <;> simp [succeeded, outcome, Except.isOk, Except.toBool]

/-! ## The invariant -/

structure Recorded (c : Cache) (reads : List SourceRead) : Prop where
  attempts : c.attempts = reads.map (·.path)
  known : ∀ p content, c.get? p = some content ↔
    ∃ r ∈ reads, r.path.Same p ∧ ∃ text, r.outcome = .ok text ∧ content = .ofText text
  once : reads.Pairwise fun earlier later => earlier.path.Same later.path → ¬ earlier.succeeded

theorem Recorded.contains_iff {c : Cache} {reads : List SourceRead} (recorded : Recorded c reads)
    (p : Path) : c.contains p ↔ ∃ r ∈ reads, r.path.Same p ∧ r.succeeded := by
  rw [Cache.contains_iff]
  constructor
  · rintro ⟨content, known⟩
    obtain ⟨r, member, same, text, outcome, -⟩ := (recorded.known p content).mp known
    exact ⟨r, member, same, SourceRead.succeeded_iff.mpr ⟨text, outcome⟩⟩
  · rintro ⟨r, member, same, succeeded⟩
    obtain ⟨text, outcome⟩ := SourceRead.succeeded_iff.mp succeeded
    exact ⟨.ofText text, (recorded.known p _).mpr ⟨r, member, same, text, outcome, rfl⟩⟩

theorem Recorded.unknown {c : Cache} {reads : List SourceRead} (recorded : Recorded c reads)
    {p : Path} (fresh : ∀ r ∈ reads, r.path.Same p → ¬ r.succeeded) : c.get? p = none := by
  cases known : c.get? p with
  | none => rfl
  | some content =>
    obtain ⟨r, member, same, succeeded⟩ :=
      (recorded.contains_iff p).mp (Cache.contains_iff.mpr ⟨content, known⟩)
    exact (fresh r member same succeeded).elim

theorem Recorded.size_eq {c : Cache} {reads : List SourceRead} (recorded : Recorded c reads) :
    c.size = ((reads.filter (·.succeeded)).map (·.path.key)).toFinset.card := by
  rw [size, PathMap.size_eq_card]
  congr 1
  ext key
  simp only [List.mem_toFinset, List.mem_map, List.mem_filter]
  constructor
  · rintro ⟨p, member, rfl⟩
    obtain ⟨e, present, rfl⟩ := PathMap.mem_keys.mp member
    have held : c.contains e.1 := PathMap.contains_iff.mpr ⟨e, present, Path.Same.refl _⟩
    obtain ⟨r, read, same, succeeded⟩ := (recorded.contains_iff e.1).mp held
    exact ⟨r, ⟨read, succeeded⟩, Path.same_iff_key_eq.mp same⟩
  · rintro ⟨r, ⟨member, succeeded⟩, rfl⟩
    have held : c.contains r.path :=
      (recorded.contains_iff _).mpr ⟨r, member, Path.Same.refl _, succeeded⟩
    obtain ⟨e, present, same⟩ := PathMap.contains_iff.mp held
    exact ⟨e.1, PathMap.mem_keys.mpr ⟨e, present, rfl⟩, Path.same_iff_key_eq.mp same⟩

theorem recorded_empty : Recorded {} [] where
  attempts := rfl
  known p content := by simp [get?, PathMap.get?, PathMap.find?, PathMap.empty]
  once := .nil

/-- A read of an unknown file adds itself to the history. -/
theorem Recorded.append {c : Cache} {reads : List SourceRead} (recorded : Recorded c reads)
    {p : Path} (unknown : c.get? p = none) (outcome : Except AccessError String)
    {contents : PathMap Content}
    (learnt : ∀ q content, contents.get? q = some content ↔
      c.get? q = some content ∨
        (p.Same q ∧ ∃ text, outcome = .ok text ∧ content = .ofText text)) :
    Recorded ⟨contents, c.attempts ++ [p]⟩ (reads ++ [⟨p, outcome⟩]) where
  attempts := by simp [recorded.attempts]
  known q content := by
    rw [show (Cache.mk contents (c.attempts ++ [p])).get? q = contents.get? q from rfl, learnt,
      recorded.known]
    constructor
    · rintro (⟨r, member, rest⟩ | rest)
      · exact ⟨r, List.mem_append_left _ member, rest⟩
      · exact ⟨⟨p, outcome⟩, List.mem_append_right _ (List.mem_singleton_self _), rest⟩
    · rintro ⟨r, member, rest⟩
      rcases List.mem_append.mp member with member | member
      · exact .inl ⟨r, member, rest⟩
      · rw [List.mem_singleton.mp member] at rest
        exact .inr rest
  once := by
    refine List.pairwise_append.mpr ⟨recorded.once, List.pairwise_singleton _ _, ?_⟩
    intro r member last isLast same succeeded
    rw [List.mem_singleton.mp isLast] at same
    have held := (recorded.contains_iff p).mpr ⟨r, member, same, succeeded⟩
    obtain ⟨content, known⟩ := Cache.contains_iff.mp held
    rw [unknown] at known
    cases known

theorem recorded_answer {c : Cache} {reads : List SourceRead} (recorded : Recorded c reads)
    (source : Source) (call : Call) :
    Recorded (c.answer source call).2 (reads ++ c.readsBy source call) := by
  cases call with
  | contains p => simpa [answer, readsBy] using recorded
  | holds p => simpa [answer, readsBy] using recorded
  | size => simpa [answer, readsBy] using recorded
  | read p =>
    rcases read_cases c source p with ⟨content, -, eq⟩ | ⟨unknown, text, given, eq⟩ |
      ⟨unknown, error, refused, eq⟩
    · simpa [answer, readsBy, eq] using recorded
    · have one : c.readsBy source (.read p) = [⟨p, .ok text⟩] := by
        simp [readsBy, answer, eq, given]
      rw [one, answer, eq]
      refine recorded.append unknown (.ok text) fun q content => ?_
      rw [PathMap.get?_insert]
      split
      · rename_i same
        have fresh : c.get? q = none := get?_congr same c ▸ unknown
        simp [fresh, same, eq_comm]
      · rename_i other
        simp [get?, other]
    · have one : c.readsBy source (.read p) = [⟨p, .error error⟩] := by
        simp [readsBy, answer, eq, refused]
      rw [one, answer, eq]
      exact recorded.append unknown (.error error) fun q content => by simp [get?]

theorem recorded_run {c : Cache} {reads : List SourceRead} (recorded : Recorded c reads)
    (calls : List (Source × Call)) : Recorded (c.run calls) (reads ++ c.sourceReads calls) := by
  induction calls generalizing c reads with
  | nil => simpa [run, sourceReads] using recorded
  | cons call rest ih =>
    obtain ⟨source, call⟩ := call
    have next := ih (recorded_answer recorded source call)
    rwa [List.append_assoc] at next

/-! ## The law -/

theorem Recorded.count_le_one {c : Cache} {reads : List SourceRead} (recorded : Recorded c reads)
    (p : Path) : reads.countP (fun r => r.succeeded && decide (r.path.Same p)) ≤ 1 := by
  have once := recorded.once
  clear recorded
  induction reads with
  | nil => simp
  | cons r rest ih =>
    obtain ⟨first, once⟩ := List.pairwise_cons.mp once
    rw [List.countP_cons]
    split
    · rename_i hit
      obtain ⟨succeeded, same⟩ : r.succeeded ∧ r.path.Same p := by simpa using hit
      have none : rest.countP (fun r => r.succeeded && decide (r.path.Same p)) = 0 := by
        refine List.countP_eq_zero.mpr fun later member hit => ?_
        obtain ⟨-, again⟩ : later.succeeded ∧ later.path.Same p := by simpa using hit
        exact first later member (same.trans again.symm) succeeded
      omega
    · exact ih once

theorem each_file_read_once (calls : List (Source × Call)) :
    let c := run {} calls
    let reads := sourceReads {} calls
    c.attempts = reads.map (·.path) ∧
    (∀ p, reads.countP (fun r => r.succeeded && decide (r.path.Same p)) ≤ 1) ∧
    (∀ r ∈ reads, ∀ text, r.outcome = .ok text → ∀ p, r.path.Same p → ∀ source : Source,
      c.answer source (.read p) = (.content (.ok ⟨text, Sha256.hexDigest text⟩), c)) ∧
    (∀ p, (∀ r ∈ reads, r.path.Same p → ¬ r.succeeded) → ∀ source : Source, ∃ after : Cache,
      after.attempts = c.attempts ++ [p] ∧
      match source.read p with
      | .ok text =>
        c.answer source (.read p) = (.content (.ok ⟨text, Sha256.hexDigest text⟩), after) ∧
        ∀ q, after.get? q = if p.Same q then some ⟨text, Sha256.hexDigest text⟩ else c.get? q
      | .error error =>
        c.answer source (.read p) = (.content (.error ⟨p, error⟩), after) ∧
        after.contents = c.contents) ∧
    (∀ p source, ∃ known, c.answer source (.contains p) = (.truth known, c) ∧
      (known ↔ ∃ r ∈ reads, r.path.Same p ∧ r.succeeded)) ∧
    (∀ source, c.answer source .size =
      (.count ((reads.filter (·.succeeded)).map (·.path.key)).toFinset.card, c)) ∧
    (∀ p source, c.answer source (.holds p) = (.truth (source.holds p), c)) ∧
    ∀ text, (Sha256.hexDigest text).length = 64 ∧
      ∀ digit ∈ (Sha256.hexDigest text).toList, digit ∈ Bytes.lowerHexDigits := by
  intro c reads
  have recorded : Recorded c reads := recorded_run recorded_empty calls
  refine ⟨recorded.attempts, recorded.count_le_one, ?_, ?_, ?_, ?_, fun _ _ => rfl, fun text =>
    ⟨Sha256.hexDigest_length text, fun digit => Bytes.mem_toHex⟩⟩
  · intro r member text outcome p same source
    have known := (recorded.known p _).mpr ⟨r, member, same, text, outcome, rfl⟩
    rw [answer, read_of_known known]
    rfl
  · intro p fresh source
    have unknown := recorded.unknown fresh
    cases given : source.read p with
    | ok text =>
      have eq := read_of_text unknown given
      refine ⟨⟨c.contents.insert p (.ofText text), c.attempts ++ [p]⟩, rfl, ?_, fun q => ?_⟩
      · rw [answer, eq]
        rfl
      · rw [get?, PathMap.get?_insert]
        rfl
    | error error =>
      have eq := read_of_error unknown given
      exact ⟨⟨c.contents, c.attempts ++ [p]⟩, rfl, by rw [answer, eq], rfl⟩
  · intro p source
    exact ⟨c.contains p, rfl, recorded.contains_iff p⟩
  · intro source
    rw [answer, recorded.size_eq]

/-- The first read fails, the second is made under another spelling, and the third is answered from
it although the source has changed. -/
theorem respelled_read_is_known :
    let one : Source := .ofTexts (.ofList [(.ofString "d/a.py", "one")])
    let two : Source := .ofTexts (.ofList [(.ofString "d/a.py", "two")])
    let c := run {} [(.ofTexts .empty, .read (.ofString "d/a.py")),
      (one, .read (.ofString "d//a.py")), (two, .size)]
    c.answer two (.read (.ofString "d/./a.py")) =
      (.content (.ok ⟨"one", Sha256.hexDigest "one"⟩), c) := by
  intro one two c
  have law := each_file_read_once [(.ofTexts .empty, .read (.ofString "d/a.py")),
    (one, .read (.ofString "d//a.py")), (two, .size)]
  exact law.2.2.1 ⟨.ofString "d//a.py", .ok "one"⟩ (.tail _ (.head _)) "one" rfl _ rfl two

end ProjectContext.Cache
