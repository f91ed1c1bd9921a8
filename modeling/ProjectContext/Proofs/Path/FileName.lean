import ProjectContext.FileKind
import ProjectContext.Proofs.Path.Joining
import ProjectContext.Proofs.Path.Lookup

/-!
# The last name of a path

Separators and `/.` parts behind the last name of a path change nothing, so what counts is the name
in front of them (`Path.endsIn_iff`). The kind of a file is read from this name alone, whatever
bytes stand before its last dot, so all spellings of a path are of one kind
(`FileKind.last_name_decides_kind`).
-/

namespace ProjectContext

/-! ## Cuts at the last separator -/

theorem exists_last_cut {α : Type*} {a : α} {as : List α} (member : a ∈ as) :
    ∃ front back, as = front ++ a :: back ∧ a ∉ back := by
  obtain ⟨back, front, cut, free⟩ := List.eq_append_cons_of_mem (List.mem_reverse.mpr member)
  refine ⟨front.reverse, back.reverse, ?_, fun later => free (List.mem_reverse.mp later)⟩
  rw [← as.reverse_reverse, cut]
  simp

theorem Bytes.splitOn_of_not_mem {separator : UInt8} {bytes : Bytes} (free : separator ∉ bytes) :
    Bytes.splitOn separator bytes = [bytes] := by
  rw [Bytes.splitOn_eq]
  exact List.splitOn_eq_singleton free

namespace Path

variable {p : Path} {name ext last : Bytes}

/-! ## The last name -/

/-- A name between separators, which is neither the current nor the parent directory. -/
structure IsNormal (name : Bytes) : Prop where
  whole : separator ∉ name
  nonempty : name ≠ []
  not_current : name ≠ [dot]
  not_parent : name ≠ [dot, dot]

/-- The longer spelling has further separators and `/.` parts behind the shorter one. -/
inductive Padded (shorter : Bytes) : Bytes → Prop
  | refl : Padded shorter shorter
  | separator {longer : Bytes} : Padded shorter longer → Padded shorter (longer ++ [separator])
  | current {longer : Bytes} : Padded shorter longer → Padded shorter (longer ++ [separator, dot])

/-- Without the separators and `/.` parts behind it, the path ends in the name, in front of which
stands nothing or a separator. -/
def EndsIn (p : Path) (name : Bytes) : Prop :=
  IsNormal name ∧ ∃ front, (front = [] ∨ front.getLast? = some separator) ∧
    Padded (front ++ name) p.bytes

/-- The last component, unless it is the root or a leading `.`. -/
def lastInner? (bytes : Bytes) : Option Component :=
  ((Bytes.splitOn separator bytes).filterMap componentOfPart).getLast?

theorem componentOfPart_eq_normal (whole : separator ∉ last) :
    componentOfPart last = some (.normal name) ↔ last = name ∧ IsNormal name := by
  rw [componentOfPart_eq_some]
  constructor
  · rintro ⟨nonempty, other, ⟨-, parent⟩ | ⟨inner, named⟩⟩
    · cases parent
    · cases named
      exact ⟨rfl, whole, nonempty, other, inner⟩
  · rintro ⟨rfl, normal⟩
    exact ⟨normal.nonempty, normal.not_current, .inr ⟨normal.not_parent, rfl⟩⟩

theorem lastInner?_of_not_mem (whole : separator ∉ last) :
    lastInner? last = componentOfPart last := by
  rw [lastInner?, Bytes.splitOn_of_not_mem whole]
  cases named : componentOfPart last <;> simp [named]

theorem lastInner?_append (rest : Bytes) (whole : separator ∉ last) :
    lastInner? (rest ++ separator :: last) = (componentOfPart last).or (lastInner? rest) := by
  rw [lastInner?, Bytes.splitOn_append, List.filterMap_append, List.getLast?_append]
  exact congrArg (Option.or · _) (lastInner?_of_not_mem whole)

theorem getLast?_cons_of_ne {α : Type*} {a b : α} {as : List α} (other : b ≠ a) :
    (b :: as).getLast? = some a ↔ as.getLast? = some a := by
  cases as <;> simp [other]

theorem getLast?_components :
    p.components.getLast? = some (.normal name) ↔ lastInner? p.bytes = some (.normal name) := by
  simp only [components, lastInner?]
  split
  · exact getLast?_cons_of_ne (by simp)
  · split
    · exact getLast?_cons_of_ne (by simp)
    · rfl

theorem fileName?_eq_some :
    p.fileName? = some name ↔ p.components.getLast? = some (.normal name) := by
  rw [fileName?]
  split
  · rename_i other named
    rw [named]
    simp
  · rename_i unnamed
    constructor
    · intro named
      cases named
    · intro named
      exact absurd named (unnamed name)

theorem endsIn_of_lastInner? {bytes : Bytes} (named : lastInner? bytes = some (.normal name)) :
    EndsIn ⟨bytes⟩ name := by
  by_cases parts : separator ∈ bytes
  · obtain ⟨rest, last, spelled, whole⟩ := exists_last_cut parts
    have shorter : rest.length < bytes.length := by simp [spelled]
    rw [spelled, lastInner?_append rest whole] at named
    cases part : componentOfPart last with
    | none =>
      -- The last part is dropped, and the name stands in what is left.
      rw [part, Option.none_or] at named
      obtain ⟨normal, front, opens, padded⟩ := endsIn_of_lastInner? named
      refine ⟨normal, front, opens, ?_⟩
      rw [spelled]
      rcases componentOfPart_eq_none.mp part with rfl | rfl
      · exact padded.separator
      · exact padded.current
    | some component =>
      rw [part, Option.some_or] at named
      cases named
      obtain ⟨rfl, normal⟩ := (componentOfPart_eq_normal whole).mp part
      refine ⟨normal, rest ++ [separator], .inr (by simp), ?_⟩
      simpa [spelled] using Padded.refl
  · rw [lastInner?_of_not_mem parts] at named
    obtain ⟨rfl, normal⟩ := (componentOfPart_eq_normal parts).mp named
    exact ⟨normal, [], .inl rfl, .refl⟩
termination_by bytes.length

theorem lastInner?_of_endsIn (ends : p.EndsIn name) : lastInner? p.bytes = some (.normal name) := by
  obtain ⟨normal, front, opens, padded⟩ := ends
  have part := (componentOfPart_eq_normal normal.whole).mpr ⟨rfl, normal⟩
  generalize p.bytes = bytes at padded ⊢
  induction padded with
  | refl =>
    rcases opens with rfl | ends
    · rw [List.nil_append, lastInner?_of_not_mem normal.whole, part]
    · obtain ⟨rest, rfl⟩ := List.getLast?_eq_some_iff.mp ends
      rw [List.append_assoc, List.singleton_append, lastInner?_append rest normal.whole, part,
        Option.some_or]
  | separator padded ih =>
    rw [lastInner?_append _ (by simp), ← ih]
    rfl
  | current padded ih =>
    rw [lastInner?_append _ (by decide), ← ih]
    rfl

/-- What stands behind the last name adds no component. -/
theorem endsIn_iff : p.EndsIn name ↔ p.components.getLast? = some (.normal name) :=
  ⟨fun ends => getLast?_components.mpr (lastInner?_of_endsIn ends),
    fun named => endsIn_of_lastInner? (getLast?_components.mp named)⟩

/-! ## Extensions -/

theorem nameExtension?_append (stem : Bytes) (free : dot ∉ ext) :
    nameExtension? (stem ++ dot :: ext) = if stem = [] then none else some ext := by
  rw [nameExtension?, Bytes.splitOn_append, Bytes.splitOn_of_not_mem free, Bytes.splitOn_eq]
  have whole : [dot].intercalate (List.splitOn dot stem) = stem := List.intercalate_splitOn dot
  cases parts : List.splitOn dot stem with
  | nil => exact absurd parts (List.splitOn_ne_nil dot stem)
  | cons first others =>
    cases others with
    | nil =>
      obtain rfl : first = stem := by simpa [parts] using whole
      cases first <;> rfl
    | cons second others =>
      have nonempty : stem ≠ [] := by
        rintro rfl
        cases parts
      have final : (first :: second :: others ++ [ext]).getLast? = some ext :=
        List.getLast?_concat
      rw [if_neg nonempty, ← final]
      cases others <;> cases first <;> rfl

theorem nameExtension?_eq_some :
    nameExtension? name = some ext ↔ ∃ stem, stem ≠ [] ∧ name = stem ++ dot :: ext ∧ dot ∉ ext := by
  constructor
  · intro found
    by_cases dotted : dot ∈ name
    · obtain ⟨stem, last, rfl, free⟩ := exists_last_cut dotted
      rw [nameExtension?_append stem free] at found
      split at found
      · cases found
      · rename_i nonempty
        cases found
        exact ⟨stem, nonempty, rfl, free⟩
    · rw [nameExtension?, Bytes.splitOn_of_not_mem dotted] at found
      cases found
  · rintro ⟨stem, nonempty, rfl, free⟩
    rw [nameExtension?_append stem free, if_neg nonempty]

end Path

/-! ## Kinds -/

namespace FileKind

variable {p : Path} {kind : FileKind} {ext : Bytes}

theorem ofExtension?_eq_some :
    ofExtension? ext = some kind ↔ ext = Bytes.ofString kind.extension := by
  constructor
  · intro found
    rw [ofExtension?] at found
    have equal := List.find?_some found
    exact (beq_iff_eq.mp equal).symm
  · rintro rfl
    cases kind <;> rfl

theorem dot_not_mem_extension (kind : FileKind) : Path.dot ∉ Bytes.ofString kind.extension := by
  cases kind <;> decide

/-- A path is of a kind when something stands before the dot and the extension of the kind in its
last name. -/
theorem ofPath?_eq_some : ofPath? p = some kind ↔
    ∃ stem, stem ≠ [] ∧ p.EndsIn (stem ++ Path.dot :: Bytes.ofString kind.extension) := by
  simp only [ofPath?, Path.extension?, Option.bind_eq_some_iff, ofExtension?_eq_some,
    Path.nameExtension?_eq_some, Path.fileName?_eq_some, ← Path.endsIn_iff]
  constructor
  · rintro ⟨_, ⟨_, ends, stem, nonempty, rfl, -⟩, rfl⟩
    exact ⟨stem, nonempty, ends⟩
  · rintro ⟨stem, nonempty, ends⟩
    exact ⟨_, ⟨_, ends, stem, nonempty, rfl, kind.dot_not_mem_extension⟩, rfl⟩

example : [".py", "a.py/..", "a.PY", "./.", "..py/.//"].map (ofPath? ∘ .ofString) =
    [none, none, none, none, some .python] := by
  decide +kernel

/-- The last name decides the kind, whichever spelling of a path a map, a set or the cache has
kept. -/
theorem last_name_decides_kind {α : Type*} (p : Path) :
    (∀ kind, ofPath? p = some kind ↔
      ∃ stem, stem ≠ [] ∧ p.EndsIn (stem ++ Path.dot :: Bytes.ofString kind.extension)) ∧
    (∀ name, p.EndsIn name ↔ p.components.getLast? = some (.normal name)) ∧
    (∀ file, DiscoveredFile.ofPath? p = some file ↔
      file.path = p ∧ ofPath? p = some file.kind) ∧
    (∀ q, p.Same q → ofPath? p = ofPath? q) ∧
    ∀ (m : PathMap α) e, m.find? p = some e → ofPath? e.1 = ofPath? p := by
  refine ⟨fun kind => ofPath?_eq_some, fun name => Path.endsIn_iff,
    fun file => DiscoveredFile.ofPath?_eq_some, fun q same => ofPath?_eq_of_same same, ?_⟩
  intro m e found
  exact ofPath?_eq_of_same (PathMap.find?_eq_some.mp found).2

/-- The stem is no text, and the map has kept another spelling than the one it is asked for. -/
theorem unreadable_stem_is_python :
    let p : Path := ⟨[0x64, 0x2F, 0xE9, 0x2E, 0x70, 0x79, 0x2F, 0x2E]⟩
    let q : Path := ⟨[0x64, 0x2F, 0x2F, 0xE9, 0x2E, 0x70, 0x79]⟩
    let r : Path := ⟨[0x64, 0x2F, 0x2E, 0x2F, 0xE9, 0x2E, 0x70, 0x79, 0x2F]⟩
    let m : PathMap Nat := .ofList [(q, 1), (p, 2)]
    p.toString? = none ∧ p.Same r ∧ m.find? p = some (q, 2) ∧
      [p, q, r].map ofPath? = List.replicate 3 (some .python) := by
  intro p q r m
  obtain ⟨named, -, -, same, kept⟩ := @last_name_decides_kind Nat p
  have spelled : p.Same r := by decide +kernel
  have found : m.find? p = some (q, 2) := by decide +kernel
  have ends : p.EndsIn ([0xE9] ++ Path.dot :: Bytes.ofString python.extension) :=
    ⟨⟨by decide, by decide, by decide, by decide⟩, [0x64, 0x2F], .inr rfl, .current .refl⟩
  have known : ofPath? p = some .python := (named .python).mpr ⟨_, by decide, ends⟩
  have kept : ofPath? q = some .python := (kept m _ found).trans known
  have same : ofPath? r = some .python := (same r spelled).symm.trans known
  refine ⟨by decide +kernel, spelled, found, ?_⟩
  simp [known, kept, same]

end FileKind

end ProjectContext
