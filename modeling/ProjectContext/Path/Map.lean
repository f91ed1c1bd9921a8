import ProjectContext.Path.Basic

/-!
# Maps keyed by paths

A `PathMap` holds at most one entry for all the spellings of a path, in the order of paths. The
order is part of the type, so that no operation can leave it. Inserting under another spelling of a
key that is there replaces the value and keeps the spelling.
-/

namespace ProjectContext

def KeysAscend (entries : List (Path × α)) : Prop :=
  entries.Pairwise fun a b => a.1.key < b.1.key

namespace PathMap

def insertEntry (p : Path) (a : α) : List (Path × α) → List (Path × α)
  | [] => [(p, a)]
  | (q, b) :: rest =>
    if p.key < q.key then (p, a) :: (q, b) :: rest
    else if p.key = q.key then (q, a) :: rest
    else (q, b) :: insertEntry p a rest

theorem key_mem_insertEntry {p : Path} {a : α} {entries : List (Path × α)} {e : Path × α}
    (h : e ∈ insertEntry p a entries) : e.1.key = p.key ∨ ∃ o ∈ entries, e.1.key = o.1.key := by
  induction entries with
  | nil => simp_all [insertEntry]
  | cons entry rest ih =>
    obtain ⟨q, b⟩ := entry
    rw [insertEntry] at h
    split at h
    · rcases List.mem_cons.mp h with rfl | h
      · exact .inl rfl
      · exact .inr ⟨e, h, rfl⟩
    · split at h
      · rcases List.mem_cons.mp h with rfl | h
        · exact .inr ⟨(q, b), List.mem_cons_self, rfl⟩
        · exact .inr ⟨e, List.mem_cons_of_mem _ h, rfl⟩
      · rcases List.mem_cons.mp h with rfl | h
        · exact .inr ⟨(q, b), List.mem_cons_self, rfl⟩
        · rcases ih h with same | ⟨o, member, same⟩
          · exact .inl same
          · exact .inr ⟨o, List.mem_cons_of_mem _ member, same⟩

theorem keysAscend_insertEntry (p : Path) (a : α) {entries : List (Path × α)}
    (h : KeysAscend entries) : KeysAscend (insertEntry p a entries) := by
  induction entries with
  | nil => exact List.pairwise_singleton _ _
  | cons entry rest ih =>
    obtain ⟨q, b⟩ := entry
    have ⟨least, ascending⟩ := List.pairwise_cons.mp h
    rw [insertEntry]
    split
    · rename_i less
      refine List.pairwise_cons.mpr ⟨fun e member => ?_, h⟩
      rcases List.mem_cons.mp member with rfl | member
      · exact less
      · exact List.lt_trans less (least e member)
    · rename_i notLess
      split
      · exact List.pairwise_cons.mpr ⟨least, ascending⟩
      · rename_i different
        refine List.pairwise_cons.mpr ⟨fun e member => ?_, ih ascending⟩
        rcases key_mem_insertEntry member with same | ⟨o, member, same⟩
        · show q.key < e.1.key
          rw [same]
          exact Classical.byContradiction fun greater =>
            different (Std.Trichotomous.trichotomous _ _ notLess greater)
        · show q.key < e.1.key
          rw [same]
          exact least o member

end PathMap

/-- A map keyed by paths up to their spelling, in the order of paths. -/
structure PathMap (α : Type u) where
  entries : List (Path × α)
  ascending : KeysAscend entries

namespace PathMap

def empty : PathMap α := ⟨[], List.Pairwise.nil⟩

instance : Inhabited (PathMap α) := ⟨empty⟩

instance [DecidableEq α] : DecidableEq (PathMap α) := fun m n =>
  decidable_of_iff (m.entries = n.entries) <| by
    cases m
    cases n
    simp

/-- The map with the value `a` for `p`; a key that is there keeps its spelling. -/
def insert (m : PathMap α) (p : Path) (a : α) : PathMap α :=
  ⟨insertEntry p a m.entries, keysAscend_insertEntry p a m.ascending⟩

def insertAll (m : PathMap α) (entries : List (Path × α)) : PathMap α :=
  entries.foldl (fun m e => m.insert e.1 e.2) m

def ofList (entries : List (Path × α)) : PathMap α := empty.insertAll entries

def find? (m : PathMap α) (p : Path) : Option (Path × α) :=
  m.entries.find? fun e => decide (e.1.key = p.key)

def get? (m : PathMap α) (p : Path) : Option α := (m.find? p).map (·.2)

def contains (m : PathMap α) (p : Path) : Bool := (m.find? p).isSome

def erase (m : PathMap α) (p : Path) : PathMap α :=
  ⟨m.entries.filter fun e => decide (e.1.key ≠ p.key), m.ascending.filter _⟩

def contents (m : PathMap α) : List (List (List Nat) × α) := m.entries.map fun e => (e.1.key, e.2)

def Same (m n : PathMap α) : Prop := m.contents = n.contents

instance [DecidableEq α] (m n : PathMap α) : Decidable (m.Same n) :=
  inferInstanceAs (Decidable (_ = _))

def keys (m : PathMap α) : List Path := m.entries.map (·.1)

def size (m : PathMap α) : Nat := m.entries.length

def isEmpty (m : PathMap α) : Bool := m.entries.isEmpty

end PathMap

end ProjectContext
