import Mathlib.Algebra.BigOperators.Group.Finset.Basic
import Mathlib.Algebra.GroupWithZero.Nat
import ProjectContext.Proofs.Path.Lookup

/-!
# Paths up to their spelling

The spellings of one path form a class, and a map has one entry for each class of its keys
(`PathMap.size_eq_classes`). The keys stand in the order of components (`PathMap.keys_before`): of
two paths that part at some component, the one that has the lesser component there comes first,
wherever the separators stand.
-/

namespace ProjectContext

/-! ## Classes -/

namespace Path

instance setoid : Setoid Path := ⟨Same, Same.refl, Same.symm, Same.trans⟩

instance decidableEquiv (p q : Path) : Decidable (p ≈ q) := inferInstanceAs (Decidable (p.Same q))

/-- A path in whatever spelling. -/
abbrev Class : Type := Quotient Path.setoid

def toClass (p : Path) : Class := Quotient.mk _ p

theorem toClass_eq {p q : Path} : p.toClass = q.toClass ↔ p.Same q := Quotient.eq

def classesOf (paths : List Path) : Finset Class := (paths.map toClass).toFinset

theorem toClass_mem_classesOf {p : Path} {paths : List Path} :
    p.toClass ∈ classesOf paths ↔ ∃ q ∈ paths, q.Same p := by
  simp [classesOf, toClass_eq]

theorem classesOf_congr {paths others : List Path}
    (same : ∀ p, (∃ q ∈ paths, q.Same p) ↔ ∃ q ∈ others, q.Same p) :
    classesOf paths = classesOf others := by
  ext c
  obtain ⟨p, rfl⟩ := Quotient.exists_rep c
  exact toClass_mem_classesOf.trans ((same p).trans toClass_mem_classesOf.symm)

end Path

namespace PathMap

variable {α : Type*}

theorem classes_nodup (m : PathMap α) : (m.keys.map Path.toClass).Nodup := by
  refine List.pairwise_map.mpr (m.keys_ascend.imp fun less same => ?_)
  exact less.ne (Path.same_iff_key_eq.mp (Path.toClass_eq.mp same))

theorem size_eq_classes (m : PathMap α) : m.size = (Path.classesOf m.keys).card := by
  rw [Path.classesOf, List.toFinset_card_of_nodup m.classes_nodup]
  simp [size, keys]

/-- A sum over the entries of a map is one over the classes of its keys. -/
theorem sum_entries (m : PathMap α) {value : Path × α → Nat} {count : Path.Class → Nat}
    (agree : ∀ e ∈ m.entries, value e = count e.1.toClass) :
    (m.entries.map value).sum = ∑ c ∈ Path.classesOf m.keys, count c := by
  rw [Path.classesOf, List.sum_toFinset count m.classes_nodup, keys, List.map_map, List.map_map]
  exact congrArg List.sum (List.map_congr_left agree)

end PathMap

/-! ## The order of components -/

theorem lex_map_iff {α β : Type*} {f : α → β} {r : α → α → Prop} {s : β → β → Prop}
    (injective : f.Injective) (order : ∀ a b, s (f a) (f b) ↔ r a b) (as bs : List α) :
    List.Lex s (as.map f) (bs.map f) ↔ List.Lex r as bs := by
  induction as generalizing bs with
  | nil => cases bs <;> simp
  | cons a as ih =>
    cases bs with
    | nil => simp
    | cons b bs => simp [List.cons_lex_cons_iff, order, injective.eq_iff, ih]

/-- The root comes first, then `.`, then `..`, then the names. -/
def Component.rank : Component → Nat
  | .root => 0
  | .current => 1
  | .parent => 2
  | .normal _ => 3

inductive Component.Before : Component → Component → Prop
  | rank {a b : Component} (less : a.rank < b.rank) : Before a b
  | bytes {x y : Bytes} (less : x < y) : Before (.normal x) (.normal y)

theorem Component.before_iff {a b : Component} : a.Before b ↔
    a.rank < b.rank ∨ ∃ x y : Bytes, a = .normal x ∧ b = .normal y ∧ x < y := by
  constructor
  · rintro (less | less)
    · exact .inl less
    · exact .inr ⟨_, _, rfl, rfl, less⟩
  · rintro (less | ⟨x, y, rfl, rfl, less⟩)
    · exact .rank less
    · exact .bytes less

theorem Component.key_lt_iff (a b : Component) : a.key < b.key ↔ a.Before b := by
  have names (x y : Bytes) : x.map UInt8.toNat < y.map UInt8.toNat ↔ x < y :=
    lex_map_iff (fun _ _ => UInt8.toNat_inj.mp) (fun _ _ => UInt8.lt_iff_toNat_lt.symm) x y
  rw [before_iff]
  cases a <;> cases b <;> simp [key, rank, List.cons_lt_cons_iff, names]

def Path.Before (p q : Path) : Prop := List.Lex Component.Before p.components q.components

theorem Path.key_lt_iff (p q : Path) : p.key < q.key ↔ p.Before q :=
  lex_map_iff Component.key_injective Component.key_lt_iff p.components q.components

theorem PathMap.keys_before {α : Type*} (m : PathMap α) : m.keys.Pairwise Path.Before :=
  m.keys_ascend.imp fun less => (Path.key_lt_iff _ _).mp less

end ProjectContext
