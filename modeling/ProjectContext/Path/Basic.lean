import ProjectContext.Text.Bytes

/-!
# Paths

A path is a byte string, and it stays as it is spelled. Two paths are *the same* when they have the
same components; `Path.key` turns the components into lists of numbers, whose lexicographic order is
the order of paths.
-/

namespace ProjectContext

structure Path where
  bytes : Bytes
deriving DecidableEq, Repr

inductive Component
  | root
  | current
  | parent
  | normal (name : Bytes)
deriving DecidableEq, Repr

/-- The component as a list of numbers: the root comes first, then `.`, then `..`, then the names in
the order of their bytes. -/
def Component.key : Component → List Nat
  | .root => [0]
  | .current => [1]
  | .parent => [2]
  | .normal name => 3 :: name.map UInt8.toNat

theorem Component.key_injective : Function.Injective Component.key := by
  intro a b h
  cases a <;> cases b <;> simp_all [Component.key]
  rename_i x y
  exact List.map_inj_right (fun _ _ => UInt8.toNat_inj.mp) |>.mp h

namespace Path

def separator : UInt8 := 0x2F

def dot : UInt8 := 0x2E

def ofString (text : String) : Path := ⟨Bytes.ofString text⟩

/-- The text of the path, with U+FFFD for each part that is no character. -/
def display (p : Path) : String := Utf8.decodeLossy p.bytes

def toString? (p : Path) : Option String := Utf8.decode? p.bytes

def isAbsolute (p : Path) : Bool := p.bytes.head? == some separator

/-- The component that a part between separators stands for; empty parts and `.` stand for none. -/
def componentOfPart (part : Bytes) : Option Component :=
  if part = [] ∨ part = [dot] then none
  else if part = [dot, dot] then some .parent
  else some (.normal part)

/-- The components: a leading separator is the root, a leading `.` of a relative path is the current
directory. -/
def components (p : Path) : List Component :=
  let parts := Bytes.splitOn separator p.bytes
  let inner := parts.filterMap componentOfPart
  if p.isAbsolute then .root :: inner
  else if parts.head? = some [dot] then .current :: inner
  else inner

def key (p : Path) : List (List Nat) := p.components.map Component.key

def Same (p q : Path) : Prop := p.components = q.components

instance (p q : Path) : Decidable (p.Same q) := inferInstanceAs (Decidable (_ = _))

theorem same_iff_key_eq {p q : Path} : p.Same q ↔ p.key = q.key :=
  (List.map_inj_right fun _ _ h => Component.key_injective h).symm

theorem Same.refl (p : Path) : p.Same p := rfl

theorem Same.symm {p q : Path} (h : p.Same q) : q.Same p := Eq.symm h

theorem Same.trans {p q r : Path} (h : p.Same q) (h' : q.Same r) : p.Same r := Eq.trans h h'

def fileName? (p : Path) : Option Bytes :=
  match p.components.getLast? with
  | some (.normal name) => some name
  | _ => none

/-- What follows the last dot of a name, unless that dot is the first byte. -/
def nameExtension? (name : Bytes) : Option Bytes :=
  match Bytes.splitOn dot name with
  | [] | [_] | [[], _] => none
  | parts => parts.getLast?

def extension? (p : Path) : Option Bytes := p.fileName?.bind nameExtension?

def join (p : Path) (name : Bytes) : Path :=
  if p.bytes = [] ∨ p.bytes.getLast? = some separator then ⟨p.bytes ++ name⟩
  else ⟨p.bytes ++ separator :: name⟩

end Path

end ProjectContext
