import Mathlib.Data.Finset.Card
import Mathlib.Data.List.Lex
import Mathlib.Data.List.Sort
import ProjectContext.Path.Map

/-!
# Looking up in maps keyed by paths

What a `PathMap` answers, told apart into the spelling of a key and its value. Inserting entries one
after the other keeps the first spelling of each path (`spelling?_insertAll`) and the last value
(`get?_insertAll`).
-/

namespace ProjectContext

variable {α : Type*}

theorem decide_key_eq (p q : Path) : decide (p.key = q.key) = decide (p.Same q) := by
  simp only [Path.same_iff_key_eq]

/-- The first spelling of a path in a list. -/
def Path.firstIn (p : Path) (paths : List Path) : Option Path :=
  paths.find? fun q => decide (q.Same p)

theorem Path.firstIn_isSome {p : Path} {paths : List Path} :
    (p.firstIn paths).isSome ↔ ∃ q ∈ paths, q.Same p := by
  simp [firstIn]

/-- Lists in the strict order of some keys are equal when they have the same members. -/
theorem eq_of_ascending {as bs : List α} (key : α → List (List Nat))
    (first : as.Pairwise fun a b => key a < key b) (second : bs.Pairwise fun a b => key a < key b)
    (members : ∀ a, a ∈ as ↔ a ∈ bs) : as = bs := by
  have : Std.Antisymm fun a b : α => key a < key b :=
    ⟨fun a b less greater => (lt_asymm less greater).elim⟩
  have : Std.Irrefl fun a b : α => key a < key b := ⟨fun a => lt_irrefl (key a)⟩
  exact first.eq_of_mem_iff second members

namespace PathMap

/-! ## Entries -/

theorem find?_eq_some {m : PathMap α} {p : Path} {e : Path × α} :
    m.find? p = some e ↔ e ∈ m.entries ∧ e.1.Same p := by
  constructor
  · intro found
    have same : e.1.key = p.key := by simpa using List.find?_some found
    exact ⟨List.mem_of_find?_eq_some found, Path.same_iff_key_eq.mpr same⟩
  · rintro ⟨member, same⟩
    rw [Path.same_iff_key_eq] at same
    have ascending := m.ascending
    rw [find?]
    generalize m.entries = entries at member ascending
    induction entries with
    | nil => cases member
    | cons first rest ih =>
      obtain ⟨least, ascending⟩ := List.pairwise_cons.mp ascending
      rcases List.mem_cons.mp member with rfl | later
      · simp [same]
      · have different : first.1.key ≠ p.key := fun equal =>
          lt_irrefl p.key (by simpa only [equal, same] using least e later)
        rw [List.find?_cons_of_neg (by simpa using different)]
        exact ih later ascending

theorem find?_eq_none {m : PathMap α} {p : Path} :
    m.find? p = none ↔ ∀ e ∈ m.entries, ¬ e.1.Same p := by
  simp [find?, Path.same_iff_key_eq]

theorem find?_congr {p q : Path} (same : p.Same q) (m : PathMap α) : m.find? p = m.find? q := by
  simp only [find?, Path.same_iff_key_eq.mp same]

theorem get?_congr {p q : Path} (same : p.Same q) (m : PathMap α) : m.get? p = m.get? q := by
  rw [get?, get?, find?_congr same]

theorem get?_of_mem {m : PathMap α} {e : Path × α} (member : e ∈ m.entries) :
    m.get? e.1 = some e.2 := by
  rw [get?, find?_eq_some.mpr ⟨member, Path.Same.refl _⟩]
  rfl

theorem contains_iff {m : PathMap α} {p : Path} : m.contains p ↔ ∃ e ∈ m.entries, e.1.Same p := by
  rw [contains, Option.isSome_iff_exists]
  exact ⟨fun ⟨e, found⟩ => ⟨e, find?_eq_some.mp found⟩, fun ⟨e, found⟩ => ⟨e, find?_eq_some.mpr found⟩⟩

theorem contains_eq_isSome (m : PathMap α) (p : Path) : m.contains p = (m.get? p).isSome := by
  simp [contains, get?]

theorem get?_eq_none {m : PathMap α} {p : Path} : m.get? p = none ↔ ¬ m.contains p := by
  simp [contains_eq_isSome]

theorem contains_congr {p q : Path} (same : p.Same q) (m : PathMap α) :
    m.contains p = m.contains q := by
  rw [contains, contains, find?_congr same]

theorem mem_keys {m : PathMap α} {p : Path} : p ∈ m.keys ↔ ∃ e ∈ m.entries, e.1 = p := List.mem_map

theorem keys_ascend (m : PathMap α) : m.keys.Pairwise fun p q => p.key < q.key :=
  List.pairwise_map.mpr m.ascending

theorem contains_iff_key {m : PathMap α} {p : Path} : m.contains p ↔ ∃ key ∈ m.keys, key.Same p := by
  simp [contains_iff, keys]

theorem eq_of_same {m : PathMap α} {e o : Path × α} (member : e ∈ m.entries) (other : o ∈ m.entries)
    (same : e.1.Same o.1) : e = o := by
  have found := find?_eq_some.mpr ⟨member, same⟩
  rw [find?_eq_some.mpr ⟨other, Path.Same.refl _⟩] at found
  exact (Option.some.inj found).symm

theorem key_eq_of_same {m n : PathMap α} (keys : m.keys = n.keys) {e o : Path × α}
    (member : e ∈ m.entries) (other : o ∈ n.entries) (same : o.1.Same e.1) : o.1 = e.1 := by
  have key : e.1 ∈ n.keys := keys ▸ mem_keys.mpr ⟨e, member, rfl⟩
  obtain ⟨twin, present, equal⟩ := mem_keys.mp key
  rw [eq_of_same other present (equal ▸ same), equal]

/-- Maps with the same keys, all of whose entries agree, are the same. -/
theorem ext_of_keys {m n : PathMap α} (keys : m.keys = n.keys)
    (agree : ∀ e ∈ m.entries, e ∈ n.entries) : m = n := by
  have back : ∀ o ∈ n.entries, o ∈ m.entries := by
    intro o member
    have key : o.1 ∈ m.keys := keys ▸ mem_keys.mpr ⟨o, member, rfl⟩
    obtain ⟨e, present, equal⟩ := mem_keys.mp key
    have same : e.1.Same o.1 := equal ▸ Path.Same.refl _
    exact eq_of_same (agree e present) member same ▸ present
  have entries := eq_of_ascending (fun e : Path × α => e.1.key) m.ascending n.ascending
    fun e => ⟨agree e, back e⟩
  cases m
  cases n
  simpa using entries

theorem mem_contents {m : PathMap α} {p : Path} {a : α} :
    (p.key, a) ∈ m.contents ↔ m.get? p = some a := by
  rw [contents, List.mem_map, get?, Option.map_eq_some_iff]
  simp only [find?_eq_some, Path.same_iff_key_eq, Prod.mk.injEq, and_assoc]

/-- Maps that answer alike are the same up to the spelling of their keys. -/
theorem same_of_get? {m n : PathMap α} (agree : ∀ p, m.get? p = n.get? p) : m.Same n := by
  have ascending (m : PathMap α) : m.contents.Pairwise fun a b => a.1 < b.1 :=
    List.pairwise_map.mpr m.ascending
  refine eq_of_ascending (·.1) (ascending m) (ascending n) fun c => ?_
  have within {m n : PathMap α} (agree : ∀ p, m.get? p = n.get? p) (member : c ∈ m.contents) :
      c ∈ n.contents := by
    obtain ⟨e, present, rfl⟩ := List.mem_map.mp member
    exact mem_contents.mpr ((agree e.1).symm.trans (get?_of_mem present))
  exact ⟨within agree, within fun p => (agree p).symm⟩

theorem entries_nodup (m : PathMap α) : m.entries.Nodup := by
  refine m.ascending.imp fun less equal => ?_
  rw [equal] at less
  exact lt_irrefl _ less

/-- A map has as many entries as its keys have classes. -/
theorem size_eq_card (m : PathMap α) : m.size = (m.keys.map Path.key).toFinset.card := by
  have distinct : (m.keys.map Path.key).Nodup :=
    List.pairwise_map.mpr (m.keys_ascend.imp fun less => less.ne)
  rw [List.toFinset_card_of_nodup distinct]
  simp [size, keys]

/-! ## Spellings -/

/-- The spelling under which a path stands in the map. -/
def spelling? (m : PathMap α) (p : Path) : Option Path := (m.find? p).map (·.1)

theorem spelling?_eq_firstIn (m : PathMap α) (p : Path) : m.spelling? p = p.firstIn m.keys := by
  simp only [spelling?, find?, Path.firstIn, keys, List.find?_map, decide_key_eq, Function.comp_def]

theorem contains_eq_isSome_spelling? (m : PathMap α) (p : Path) :
    m.contains p = (m.spelling? p).isSome := by
  simp [contains, spelling?]

theorem spelling?_of_mem {m : PathMap α} {e : Path × α} (member : e ∈ m.entries) :
    m.spelling? e.1 = some e.1 := by
  rw [spelling?, find?_eq_some.mpr ⟨member, Path.Same.refl _⟩]
  rfl

theorem spelling?_eq_self {m : PathMap α} {p : Path} : m.spelling? p = some p ↔ p ∈ m.keys := by
  constructor
  · intro found
    obtain ⟨e, here, rfl⟩ := Option.map_eq_some_iff.mp found
    exact mem_keys.mpr ⟨e, (find?_eq_some.mp here).1, rfl⟩
  · intro listed
    obtain ⟨e, member, rfl⟩ := mem_keys.mp listed
    exact spelling?_of_mem member

theorem mem_entries {m : PathMap α} {e : Path × α} :
    e ∈ m.entries ↔ m.spelling? e.1 = some e.1 ∧ m.get? e.1 = some e.2 := by
  constructor
  · exact fun member => ⟨spelling?_of_mem member, get?_of_mem member⟩
  · rintro ⟨spelled, value⟩
    obtain ⟨o, found, same⟩ := Option.map_eq_some_iff.mp spelled
    rw [get?, found, Option.map_some, Option.some.injEq] at value
    exact Prod.ext same value ▸ (find?_eq_some.mp found).1

/-- A map that agrees with another one but for a path that is new to that one has one entry more. -/
theorem entries_of_agree {m n : PathMap α} {new : Path × α} (absent : ¬ m.contains new.1)
    (member : new ∈ n.entries)
    (others : ∀ e : Path × α, ¬ e.1.Same new.1 → (e ∈ n.entries ↔ e ∈ m.entries)) :
    (∀ e, e ∈ n.entries ↔ e ∈ m.entries ∨ e = new) ∧ n.size = m.size + 1 := by
  have away : ∀ e ∈ m.entries, ¬ e.1.Same new.1 := fun e present same =>
    absent (contains_iff.mpr ⟨e, present, same⟩)
  have entries (e : Path × α) : e ∈ n.entries ↔ e ∈ m.entries ∨ e = new := by
    constructor
    · intro present
      by_cases same : e.1.Same new.1
      · exact .inr (eq_of_same present member same)
      · exact .inl ((others e same).mp present)
    · rintro (present | rfl)
      · exact (others e (away e present)).mpr present
      · exact member
  have distinct : (new :: m.entries).Nodup :=
    List.nodup_cons.mpr ⟨fun present => away new present (Path.Same.refl _), m.entries_nodup⟩
  have perm : n.entries.Perm (new :: m.entries) :=
    (List.perm_ext_iff_of_nodup n.entries_nodup distinct).mpr fun e => by
      rw [entries, List.mem_cons, or_comm]
  exact ⟨entries, perm.length_eq⟩

/-! ## Insertion -/

theorem mem_insertEntry {p : Path} {a : α} {entries : List (Path × α)} {e : Path × α}
    (ascending : KeysAscend entries) :
    e ∈ insertEntry p a entries ↔
      (e ∈ entries ∧ ¬ e.1.Same p) ∨
        e = (((entries.find? fun o => decide (o.1.key = p.key)).map (·.1)).getD p, a) := by
  induction entries with
  | nil => simp [insertEntry]
  | cons entry rest ih =>
    obtain ⟨q, b⟩ := entry
    obtain ⟨least, ascending⟩ := List.pairwise_cons.mp ascending
    have above : p.key ≤ q.key → ∀ o ∈ rest, o.1.key ≠ p.key := fun le o member =>
      (lt_of_le_of_lt le (least o member)).ne'
    rw [insertEntry]
    split
    · rename_i less
      have absent : ∀ o ∈ (q, b) :: rest, o.1.key ≠ p.key := by
        intro o member
        rcases List.mem_cons.mp member with rfl | member
        · exact less.ne'
        · exact above less.le o member
      rw [List.find?_eq_none.mpr (by simpa using absent)]
      simp only [Path.same_iff_key_eq, List.mem_cons, Option.map_none, Option.getD_none]
      constructor
      · rintro (rfl | member)
        · exact .inr rfl
        · exact .inl ⟨member, absent e (List.mem_cons.mpr member)⟩
      · rintro (⟨member, -⟩ | rfl)
        · exact .inr member
        · exact .inl rfl
    · split
      · rename_i same
        have absent := above same.le
        simp only [Path.same_iff_key_eq, List.mem_cons, same, decide_true, List.find?_cons_of_pos,
          Option.map_some, Option.getD_some]
        constructor
        · rintro (rfl | member)
          · exact .inr rfl
          · exact .inl ⟨.inr member, same ▸ absent e member⟩
        · rintro (⟨rfl | member, different⟩ | rfl)
          · exact (different rfl).elim
          · exact .inr member
          · exact .inl rfl
      · rename_i different
        rw [List.mem_cons, ih ascending, List.find?_cons_of_neg (by simpa using Ne.symm different)]
        have other : ¬ q.Same p := fun same => different (Path.same_iff_key_eq.mp same).symm
        constructor
        · rintro (rfl | ⟨member, away⟩ | last)
          · exact .inl ⟨List.mem_cons_self, other⟩
          · exact .inl ⟨List.mem_cons_of_mem _ member, away⟩
          · exact .inr last
        · rintro (⟨member, away⟩ | last)
          · rcases List.mem_cons.mp member with rfl | member
            · exact .inl rfl
            · exact .inr (.inl ⟨member, away⟩)
          · exact .inr (.inr last)

theorem find?_insert (m : PathMap α) (p q : Path) (a : α) :
    (m.insert p a).find? q = if p.Same q then some ((m.spelling? p).getD p, a) else m.find? q := by
  have entry : ∀ e, e ∈ (m.insert p a).entries ↔
      (e ∈ m.entries ∧ ¬ e.1.Same p) ∨ e = ((m.spelling? p).getD p, a) :=
    fun e => mem_insertEntry m.ascending
  have spelled : ((m.spelling? p).getD p).Same p := by
    cases found : m.find? p with
    | none => simp [spelling?, found, Path.Same.refl]
    | some e => simpa [spelling?, found] using (find?_eq_some.mp found).2
  split
  · rename_i same
    exact find?_eq_some.mpr ⟨(entry _).mpr (.inr rfl), spelled.trans same⟩
  · rename_i different
    cases found : m.find? q with
    | some e =>
      obtain ⟨member, same⟩ := find?_eq_some.mp found
      refine find?_eq_some.mpr ⟨(entry e).mpr (.inl ⟨member, fun equal => ?_⟩), same⟩
      exact different (equal.symm.trans same)
    | none =>
      refine find?_eq_none.mpr fun e member same => ?_
      rcases (entry e).mp member with ⟨member, -⟩ | rfl
      · exact find?_eq_none.mp found e member same
      · exact different (spelled.symm.trans same)

theorem spelling?_insert (m : PathMap α) (p q : Path) (a : α) :
    (m.insert p a).spelling? q = if p.Same q then some ((m.spelling? q).getD p) else m.spelling? q := by
  rw [spelling?, find?_insert]
  split
  · rename_i same
    rw [spelling?, find?_congr same]
    rfl
  · rfl

theorem get?_insert (m : PathMap α) (p q : Path) (a : α) :
    (m.insert p a).get? q = if p.Same q then some a else m.get? q := by
  rw [get?, find?_insert]
  split <;> rfl

theorem contains_insert (m : PathMap α) (p q : Path) (a : α) :
    (m.insert p a).contains q ↔ p.Same q ∨ m.contains q := by
  rw [contains_eq_isSome, contains_eq_isSome, get?_insert]
  split
  · rename_i same
    simp [same]
  · rename_i other
    simp [other]

theorem mem_keys_insert {m : PathMap α} {p q : Path} {a : α} :
    q ∈ (m.insert p a).keys ↔ q ∈ m.keys ∨ (q = p ∧ ¬ m.contains p) := by
  rw [← spelling?_eq_self, ← spelling?_eq_self, spelling?_insert, contains_eq_isSome_spelling?]
  by_cases same : p.Same q
  · have equal : m.spelling? p = m.spelling? q := by rw [spelling?, spelling?, find?_congr same]
    rw [if_pos same, equal]
    cases m.spelling? q <;> simp [eq_comm]
  · have different : q ≠ p := fun equal => same (equal ▸ Path.Same.refl p)
    simp [same, different]

/-- In a set of paths, a path that is there in some spelling is not inserted. -/
theorem insert_of_contains {m : PathMap Unit} {p : Path} (known : m.contains p) :
    m.insert p () = m := by
  have keys : (m.insert p ()).keys = m.keys :=
    eq_of_ascending Path.key (m.insert p ()).keys_ascend m.keys_ascend fun q => by
      simp [mem_keys_insert, known]
  refine ext_of_keys keys fun e member => ?_
  obtain ⟨o, present, equal⟩ := mem_keys.mp (keys ▸ mem_keys.mpr ⟨e, member, rfl⟩)
  exact Prod.ext equal rfl ▸ present

/-! ## Insertion of many entries -/

/-- The last value that a list has for a path. -/
def lastValue (entries : List (Path × α)) (p : Path) : Option α :=
  (entries.reverse.find? fun e => decide (e.1.Same p)).map (·.2)

theorem lastValue_cons (e : Path × α) (entries : List (Path × α)) (p : Path) :
    lastValue (e :: entries) p = (lastValue entries p).or (if e.1.Same p then some e.2 else none) := by
  simp only [lastValue, List.reverse_cons, List.find?_append, Option.map_or]
  congr 1
  by_cases same : e.1.Same p <;> simp [same]

theorem insertAll_cons (m : PathMap α) (e : Path × α) (entries : List (Path × α)) :
    m.insertAll (e :: entries) = (m.insert e.1 e.2).insertAll entries := rfl

theorem spelling?_insertAll (m : PathMap α) (entries : List (Path × α)) (p : Path) :
    (m.insertAll entries).spelling? p = (m.spelling? p).or (p.firstIn (entries.map (·.1))) := by
  induction entries generalizing m with
  | nil => simp [insertAll, Path.firstIn]
  | cons e rest ih =>
    rw [insertAll_cons, ih, spelling?_insert]
    by_cases same : e.1.Same p
    · cases m.spelling? p <;> simp [Path.firstIn, same]
    · simp [Path.firstIn, same]

theorem get?_insertAll (m : PathMap α) (entries : List (Path × α)) (p : Path) :
    (m.insertAll entries).get? p = (lastValue entries p).or (m.get? p) := by
  induction entries generalizing m with
  | nil => rfl
  | cons e rest ih =>
    rw [insertAll_cons, ih, get?_insert, lastValue_cons, Option.or_assoc]
    congr 1
    split <;> rfl

/-- Entries that ascend are a map as they stand. -/
theorem entries_ofList {entries : List (Path × α)} (ascending : KeysAscend entries) :
    (ofList entries).entries = entries := by
  have grow : ∀ (rest : List (Path × α)) (m : PathMap α), KeysAscend (m.entries ++ rest) →
      (m.insertAll rest).entries = m.entries ++ rest := by
    intro rest
    induction rest with
    | nil => simp [insertAll]
    | cons e rest ih =>
      intro m ascending
      have last : (m.insert e.1 e.2).entries = m.entries ++ [e] := by
        have below := (List.pairwise_append.mp ascending).2.2
        show insertEntry e.1 e.2 m.entries = _
        generalize m.entries = entries at below
        induction entries with
        | nil => rfl
        | cons first others ih =>
          have less := below first List.mem_cons_self e List.mem_cons_self
          have later := ih fun o member => below o (List.mem_cons_of_mem _ member)
          simp [insertEntry, less.not_gt, less.ne', later]
      rw [insertAll_cons, ih _ (by simpa [last] using ascending), last]
      simp
  exact grow entries empty ascending

end PathMap

end ProjectContext
