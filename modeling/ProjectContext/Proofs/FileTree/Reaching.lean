import Mathlib.Data.List.Nodup
import ProjectContext.Proofs.FileTree.Resolution

/-!
# Going down a file tree

`Entry.Reaches` says which entries are below a directory without a link on the way. In a well-formed
tree the names on the way are names of entries, and they lead to one entry at most
(`Reaches.unique`).
-/

namespace ProjectContext

namespace Entry

theorem children_induction {motive : List (Bytes × Entry) → Prop} (nil : motive [])
    (cons : ∀ name e rest, (∀ inner, e = .directory inner → motive inner) → motive rest →
      motive ((name, e) :: rest)) : ∀ children, motive children
  | [] => nil
  | (name, .file content) :: rest =>
    cons name _ rest (fun _ other => nomatch other) (children_induction nil cons rest)
  | (name, .link target) :: rest =>
    cons name _ rest (fun _ other => nomatch other) (children_induction nil cons rest)
  | (name, .directory inner) :: rest =>
    cons name _ rest (fun _ same => Entry.directory.inj same ▸ children_induction nil cons inner)
      (children_induction nil cons rest)

theorem isDirectory_iff {e : Entry} : e.isDirectory = true ↔ ∃ inner, e = .directory inner := by
  cases e <;> simp [isDirectory]

/-- The entries below a directory that are reached through directories alone, and the names that
lead to them. -/
inductive Reaches : List (Bytes × Entry) → Location → Entry → Prop
  | child {children : List (Bytes × Entry)} {name : Bytes} {e : Entry} :
      (name, e) ∈ children → Reaches children [name] e
  | inside {children inner : List (Bytes × Entry)} {name : Bytes} {names : Location} {e : Entry} :
      (name, .directory inner) ∈ children → Reaches inner names e →
      Reaches children (name :: names) e

variable {children : List (Bytes × Entry)} {names : Location} {e : Entry}

theorem Reaches.head (reached : Reaches children names e) :
    ∃ name rest child, names = name :: rest ∧ (name, child) ∈ children := by
  cases reached with
  | child member => exact ⟨_, _, _, rfl, member⟩
  | inside member _ => exact ⟨_, _, _, rfl, member⟩

theorem Reaches.ne_nil (reached : Reaches children names e) : names ≠ [] := by
  obtain ⟨name, rest, -, rfl, -⟩ := reached.head
  exact List.cons_ne_nil name rest

theorem Reaches.proper (reached : Reaches children names e)
    (valid : (directory children).WellFormed) : ∀ name ∈ names, IsName name := by
  induction reached with
  | child member =>
    intro name last
    rw [List.mem_singleton.mp last]
    exact (wellFormed_child valid member).1
  | inside member _ ih =>
    obtain ⟨first, deeper⟩ := wellFormed_child valid member
    exact List.forall_mem_cons.mpr ⟨first, ih deeper⟩

/-- On the way to an entry there are directories. -/
theorem Reaches.directory_of_append {front rest : Location} (some : front ≠ []) (more : rest ≠ [])
    (reached : Reaches children (front ++ rest) e) :
    ∃ inner, Reaches children front (.directory inner) := by
  induction front generalizing children with
  | nil => exact absurd rfl some
  | cons name front ih =>
    rw [List.cons_append] at reached
    generalize after : front ++ rest = names at reached
    cases reached with
    | child _ => exact absurd (List.append_eq_nil_iff.mp after).2 more
    | inside member deeper =>
      by_cases last : front = []
      · exact last ▸ ⟨_, .child member⟩
      · obtain ⟨inner, reached⟩ := ih last (after ▸ deeper)
        exact ⟨inner, .inside member reached⟩

theorem child_unique {name : Bytes} {other : Entry} (valid : (directory children).WellFormed)
    (member : (name, e) ∈ children) (member' : (name, other) ∈ children) : e = other :=
  (Prod.mk.inj (List.inj_on_of_nodup_map valid.1 member member' rfl)).2

theorem Reaches.unique {other : Entry} (reached : Reaches children names e)
    (valid : (directory children).WellFormed) (reached' : Reaches children names other) :
    e = other := by
  induction reached with
  | child member =>
    cases reached' with
    | child member' => exact child_unique valid member member'
    | inside _ deeper => exact absurd rfl deeper.ne_nil
  | inside member deeper ih =>
    cases reached' with
    | child _ => exact absurd rfl deeper.ne_nil
    | inside member' deeper' =>
      cases child_unique valid member member'
      exact ih (wellFormed_child valid member).2 deeper'

theorem reaches_nil : ¬ Reaches [] names e := by
  intro reached
  obtain ⟨_, _, _, _, member⟩ := reached.head
  cases member

theorem reaches_cons {name : Bytes} {first : Entry} {rest : List (Bytes × Entry)} :
    Reaches ((name, first) :: rest) names e ↔
      Reaches [(name, first)] names e ∨ Reaches rest names e := by
  constructor
  · intro reached
    cases reached with
    | child member =>
      rcases List.mem_cons.mp member with here | later
      · exact Or.inl (.child (List.mem_singleton.mpr here))
      · exact Or.inr (.child later)
    | inside member deeper =>
      rcases List.mem_cons.mp member with here | later
      · exact Or.inl (.inside (List.mem_singleton.mpr here) deeper)
      · exact Or.inr (.inside later deeper)
  · rintro (reached | reached)
    · cases reached with
      | child member => exact .child (List.mem_cons.mpr (Or.inl (List.mem_singleton.mp member)))
      | inside member deeper =>
        exact .inside (List.mem_cons.mpr (Or.inl (List.mem_singleton.mp member))) deeper
    · cases reached with
      | child member => exact .child (List.mem_cons_of_mem _ member)
      | inside member deeper => exact .inside (List.mem_cons_of_mem _ member) deeper

theorem reaches_singleton {name : Bytes} {first : Entry} :
    Reaches [(name, first)] names e ↔
      names = [name] ∧ e = first ∨
        ∃ inner deeper, first = .directory inner ∧ names = name :: deeper ∧
          Reaches inner deeper e := by
  constructor
  · intro reached
    cases reached with
    | child member =>
      cases List.mem_singleton.mp member
      exact Or.inl ⟨rfl, rfl⟩
    | inside member deeper =>
      cases List.mem_singleton.mp member
      exact Or.inr ⟨_, _, rfl, rfl, deeper⟩
  · rintro (⟨rfl, rfl⟩ | ⟨inner, deeper, rfl, rfl, reached⟩)
    · exact .child List.mem_cons_self
    · exact .inside List.mem_cons_self reached

end Entry

end ProjectContext
