import ProjectContext.Proofs.Context.Reading
import ProjectContext.Proofs.Path.Classes
import ProjectContext.Proofs.Json.Pieces

/-!
# What insertions make of a map

A map that was filled entry by entry has one entry for each class of the inserted paths, in the
order of components; it stands under the spelling that was inserted first and has the value that was
inserted last (`PathMap.gathers_ofList`). A map that is read from JSON is filled with the members of
the object, in the order in which they stand in the text (`ContextMap.insertions_decide_map`).
-/

namespace ProjectContext

open Json

namespace PathMap

variable {α : Type*} {inserts : List (Path × α)} {p q : Path} {a : α}

/-! ## The first and the last insertion of a path -/

theorem firstIn_eq_some : p.firstIn (inserts.map (·.1)) = some q ↔
    ∃ before b after, inserts = before ++ (q, b) :: after ∧ q.Same p ∧
      ∀ i ∈ before, ¬ i.1.Same p := by
  rw [Path.firstIn, List.find?_map, Option.map_eq_some_iff]
  simp only [List.find?_eq_some_iff_append, Function.comp_apply, decide_eq_true_eq,
    Bool.not_eq_true', decide_eq_false_iff_not]
  constructor
  · rintro ⟨⟨_, b⟩, ⟨same, before, after, rfl, fresh⟩, rfl⟩
    exact ⟨before, b, after, rfl, same, fresh⟩
  · rintro ⟨before, b, after, rfl, same, fresh⟩
    exact ⟨(q, b), ⟨same, before, after, rfl, fresh⟩, rfl⟩

theorem lastValue_eq_some : lastValue inserts p = some a ↔
    ∃ before q after, inserts = before ++ (q, a) :: after ∧ q.Same p ∧
      ∀ i ∈ after, ¬ i.1.Same p := by
  rw [lastValue, Option.map_eq_some_iff]
  simp only [List.find?_eq_some_iff_append, decide_eq_true_eq, Bool.not_eq_true',
    decide_eq_false_iff_not]
  constructor
  · rintro ⟨⟨q, _⟩, ⟨same, after, before, split, final⟩, rfl⟩
    refine ⟨before.reverse, q, after.reverse, ?_, same, ?_⟩
    · rw [← inserts.reverse_reverse, split]
      simp
    · simpa using final
  · rintro ⟨before, q, after, rfl, same, final⟩
    refine ⟨(q, a), ⟨same, after.reverse, before.reverse, by simp, ?_⟩, rfl⟩
    simpa using final

theorem spelling?_ofList (inserts : List (Path × α)) (p : Path) :
    (ofList inserts).spelling? p = p.firstIn (inserts.map (·.1)) := by
  have fresh : (empty : PathMap α).spelling? p = none := rfl
  rw [ofList, spelling?_insertAll, fresh, Option.none_or]

theorem get?_ofList (inserts : List (Path × α)) (p : Path) :
    (ofList inserts).get? p = lastValue inserts p := by
  have fresh : (empty : PathMap α).get? p = none := rfl
  rw [ofList, get?_insertAll, fresh, Option.or_none]

/-- A map holds what was inserted: one entry for each class of paths, in the order of components,
under the spelling that came first and with the value that came last. -/
structure Gathers (m : PathMap α) (inserts : List (Path × α)) : Prop where
  covers : ∀ p, (∃ e ∈ m.entries, e.1.Same p) ↔ ∃ i ∈ inserts, i.1.Same p
  single : m.entries.Pairwise fun e o => ¬ e.1.Same o.1
  spelling : ∀ e ∈ m.entries, ∃ before b after, inserts = before ++ (e.1, b) :: after ∧
    ∀ i ∈ before, ¬ i.1.Same e.1
  value : ∀ e ∈ m.entries, ∃ before q after, inserts = before ++ (q, e.2) :: after ∧ q.Same e.1 ∧
    ∀ i ∈ after, ¬ i.1.Same e.1
  entries_order : m.entries.Pairwise fun e o => e.1.Before o.1
  keys_order : m.keys.Pairwise Path.Before
  keys : m.keys = m.entries.map (·.1)
  size : m.size = (Path.classesOf (inserts.map (·.1))).card
  get : ∀ p a, m.get? p = some a ↔ ∃ e ∈ m.entries, e.1.Same p ∧ e.2 = a
  contains : ∀ p, m.contains p ↔ ∃ e ∈ m.entries, e.1.Same p

theorem covers_ofList (inserts : List (Path × α)) (p : Path) :
    (∃ e ∈ (ofList inserts).entries, e.1.Same p) ↔ ∃ i ∈ inserts, i.1.Same p := by
  rw [← contains_iff, contains_eq_isSome_spelling?, spelling?_ofList, Path.firstIn_isSome]
  simp

theorem gathers_ofList (inserts : List (Path × α)) : (ofList inserts).Gathers inserts where
  covers := covers_ofList inserts
  single := by
    refine (ofList inserts).ascending.imp fun less same => ?_
    exact less.ne (Path.same_iff_key_eq.mp same)
  spelling e member := by
    have spelled := spelling?_of_mem member
    rw [spelling?_ofList, firstIn_eq_some] at spelled
    obtain ⟨before, b, after, split, -, fresh⟩ := spelled
    exact ⟨before, b, after, split, fresh⟩
  value e member := by
    have value := get?_of_mem member
    rwa [get?_ofList, lastValue_eq_some] at value
  entries_order := (ofList inserts).ascending.imp fun less => (Path.key_lt_iff _ _).mp less
  keys_order := (ofList inserts).keys_before
  keys := rfl
  size := by
    have classes : Path.classesOf (ofList inserts).keys = Path.classesOf (inserts.map (·.1)) :=
      Path.classesOf_congr fun p => by
        rw [← contains_iff_key, contains_iff, covers_ofList]
        simp
    rw [size_eq_classes, classes]
  get p a := by
    rw [get?, Option.map_eq_some_iff]
    simp only [find?_eq_some, and_assoc]
  contains p := contains_iff

example : (ofList [(.ofString "a.b", 1), (.ofString "a//b", 2), (.ofString "./a.b", 3),
      (.ofString "a/b/.", 4)]).entries =
    [(.ofString "./a.b", 3), (.ofString "a//b", 4), (.ofString "a.b", 1)] := by
  decide +kernel

end PathMap

namespace ContextMap

/-! ## Reading a map -/

/-- A member of a JSON object is an entry: its name is the path and its value the facts. -/
def EntryOf (member : Option String × Value) (e : Path × FileFacts) : Prop :=
  ∃ name, member.1 = some name ∧ e.1 = .ofString name ∧ FileFacts.ofJson? member.2 = some e.2

theorem ofJson?_object {members : List (Option String × Value)} {m : ContextMap} :
    ofJson? (.object members) = some m ↔
      ∃ inserts, List.Forall₂ EntryOf members inserts ∧ m = PathMap.ofList inserts := by
  have entry : (fun (member : Option String × Value) e =>
      (do return (Path.ofString (← member.1), ← FileFacts.ofJson? member.2)) = some e) =
        EntryOf := by
    funext member e
    obtain ⟨p, facts⟩ := e
    simp only [EntryOf, Option.bind_eq_bind, Option.bind_eq_some_iff, Option.pure_def,
      Option.some.injEq, Prod.mk.injEq, eq_iff_iff]
    constructor
    · rintro ⟨name, named, f, decoded, rfl, rfl⟩
      exact ⟨name, named, rfl, decoded⟩
    · rintro ⟨name, named, rfl, decoded⟩
      exact ⟨name, named, facts, decoded, rfl, rfl⟩
  rw [ofJson?, Option.bind_eq_bind, Option.bind_eq_some_iff]
  refine exists_congr fun inserts => and_congr ?_ ?_
  · rw [mapM_eq_some_iff, ← entry]
  · exact Option.some_inj.trans eq_comm

theorem readJson_eq_some {text : String} {m : ContextMap} :
    readJson text = some m ↔ ∃ members, Value.read text = some (.object members) ∧
      ∃ inserts, List.Forall₂ EntryOf members inserts ∧ m = PathMap.ofList inserts := by
  simp only [← ofJson?_object]
  rw [readJson, Option.bind_eq_some_iff]
  constructor
  · rintro ⟨v, read, decoded⟩
    cases v with
    | object members => exact ⟨members, read, decoded⟩
    | null => cases decoded
    | boolean b => cases decoded
    | number literal => cases decoded
    | text s => cases decoded
    | array items => cases decoded
  · rintro ⟨members, read, decoded⟩
    exact ⟨_, read, decoded⟩

theorem insertions_decide_map :
    (∀ inserts : List (Path × FileFacts),
      let m : ContextMap := inserts.foldl (fun m e => m.insert e.1 e.2) .empty
      m.Gathers inserts ∧ m.conversationEntries.Sublist m.entries ∧
        ∀ e, e ∈ m.conversationEntries ↔ e ∈ m.entries ∧ e.2.isConversationFile) ∧
    ((Path.ofString "a/b").Before (.ofString "a.b") ∧
      (Path.ofString "a.b").bytes < (Path.ofString "a/b").bytes) ∧
    (∀ text (m : ContextMap), readJson text = some m ↔
      ∃ members, Value.read text = some (.object members) ∧
        ∃ inserts, List.Forall₂ EntryOf members inserts ∧
          m = inserts.foldl (fun m e => m.insert e.1 e.2) .empty) ∧
    ∀ text members, Value.read text = some (.object members) →
      ∃ front inner back, text.toList = front ++ '\x7B' :: (inner ++ '\x7D' :: back) ∧
        (∀ c ∈ front ++ back, isBlank c) ∧ Elements SpellsMember inner members := by
  refine ⟨fun inserts => ⟨?_, ?_, ?_⟩, ⟨?_, ?_⟩, fun text m => ?_, fun text members read => ?_⟩
  · exact PathMap.gathers_ofList inserts
  · exact List.filter_sublist
  · exact fun e => List.mem_filter
  · exact (Path.key_lt_iff _ _).mp (by decide +kernel)
  · decide +kernel
  · exact readJson_eq_some
  · exact read_eq_object read

end ContextMap

end ProjectContext
