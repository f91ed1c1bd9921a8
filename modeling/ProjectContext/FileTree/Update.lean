import ProjectContext.FileTree.Basic

/-!
# Changing file trees

Files, directories and links are put in place with the directories above them, and removed.
-/

namespace ProjectContext

namespace Entry

def setChild (name : Bytes) (e : Entry) (children : List (Bytes × Entry)) : List (Bytes × Entry) :=
  if children.any (·.1 == name) then
    children.map fun child => if child.1 == name then (name, e) else child
  else children ++ [(name, e)]

/-- The tree with `e` at a location; what is missing above it becomes a directory. -/
def put (e : Entry) : Location → Entry → Entry
  | [], _ => e
  | name :: names, .directory children =>
    let child := (childOf? name children).getD (.directory [])
    .directory (setChild name (put e names child) children)
  | _ :: _, other => other

def remove : Location → Entry → Entry
  | [name], .directory children => .directory (children.filter fun child => child.1 != name)
  | name :: names, .directory children =>
    .directory (children.map fun child =>
      if child.1 == name then (child.1, remove names child.2) else child)
  | _, e => e

theorem wellFormed_setChild {name : Bytes} {e : Entry} {children : List (Bytes × Entry)}
    (proper : IsName name) (valid : e.WellFormed) (h : (directory children).WellFormed) :
    (directory (setChild name e children)).WellFormed := by
  obtain ⟨distinct, all⟩ := h
  rw [childrenWellFormed_iff] at all
  rw [setChild]
  split
  · have names : (children.map fun child => if child.1 == name then (name, e) else child).map (·.1) =
        children.map (·.1) := by
      rw [List.map_map]
      refine List.map_congr_left fun child _ => ?_
      by_cases same : child.1 = name <;> simp [same]
    refine ⟨names ▸ distinct, childrenWellFormed_iff.mpr fun child member => ?_⟩
    obtain ⟨old, present, rfl⟩ := List.mem_map.mp member
    split
    · exact ⟨proper, valid⟩
    · exact all old present
  · rename_i absent
    have fresh : ∀ child ∈ children, child.1 ≠ name := fun child present same =>
      absent (List.any_eq_true.mpr ⟨child, present, beq_iff_eq.mpr same⟩)
    refine ⟨?_, childrenWellFormed_iff.mpr fun child member => ?_⟩
    · rw [List.map_append]
      refine List.nodup_append.mpr ⟨distinct, by simp, fun other member last isLast => ?_⟩
      obtain ⟨child, present, rfl⟩ := List.mem_map.mp member
      rw [List.mem_singleton.mp isLast]
      exact fresh child present
    · rcases List.mem_append.mp member with member | member
      · exact all child member
      · rw [List.mem_singleton.mp member]
        exact ⟨proper, valid⟩

theorem wellFormed_put {e : Entry} (valid : e.WellFormed) {location : Location} {tree : Entry}
    (proper : ∀ name ∈ location, IsName name) (h : tree.WellFormed) :
    (put e location tree).WellFormed := by
  induction location generalizing tree with
  | nil => exact valid
  | cons name names ih =>
    cases tree with
    | file content => trivial
    | link target => trivial
    | directory children =>
      refine wellFormed_setChild (proper name List.mem_cons_self) ?_ h
      refine ih (fun name member => proper name (List.mem_cons_of_mem _ member)) ?_
      cases found : childOf? name children with
      | none => exact ⟨List.nodup_nil, trivial⟩
      | some child => exact (childrenWellFormed_iff.mp h.2 _ (mem_of_childOf? found)).2

theorem wellFormed_remove {location : Location} {tree : Entry} (h : tree.WellFormed) :
    (tree.remove location).WellFormed := by
  induction location generalizing tree with
  | nil => cases tree <;> exact h
  | cons name names ih =>
    cases tree with
    | file content => cases names <;> trivial
    | link target => cases names <;> trivial
    | directory children =>
      obtain ⟨distinct, all⟩ := h
      rw [childrenWellFormed_iff] at all
      cases names with
      | nil =>
        refine ⟨distinct.sublist (List.filter_sublist.map _), ?_⟩
        exact childrenWellFormed_iff.mpr fun child member => all child (List.mem_filter.mp member).1
      | cons next names =>
        let change (child : Bytes × Entry) : Bytes × Entry :=
          if child.1 == name then (child.1, remove (next :: names) child.2) else child
        show (directory (children.map change)).WellFormed
        have kept (child : Bytes × Entry) : (change child).1 = child.1 := by
          simp only [change]
          split <;> rfl
        have names : (children.map change).map (·.1) = children.map (·.1) := by
          rw [List.map_map]
          exact List.map_congr_left fun child _ => kept child
        refine ⟨names ▸ distinct, childrenWellFormed_iff.mpr fun child member => ?_⟩
        obtain ⟨old, present, rfl⟩ := List.mem_map.mp member
        simp only [change]
        split
        · exact ⟨(all old present).1, ih (all old present).2⟩
        · exact all old present

end Entry

namespace FileSystem

def childrenOf : Entry → List (Bytes × Entry)
  | .directory children => children
  | _ => []

theorem wellFormed_childrenOf {e : Entry} (h : e.WellFormed) :
    (Entry.directory (childrenOf e)).WellFormed := by
  cases e with
  | directory children => exact h
  | file content => exact ⟨List.nodup_nil, trivial⟩
  | link target => exact ⟨List.nodup_nil, trivial⟩

/-- The file system with `e` at a location. Nothing changes where a part of the location is no name
of an entry or `e` is no tree. -/
def put (fs : FileSystem) (location : Location) (e : Entry) : FileSystem :=
  if h : (∀ name ∈ location, Entry.IsName name) ∧ e.WellFormed then
    { fs with
      top := childrenOf (Entry.put e location fs.root)
      wellFormed := wellFormed_childrenOf (Entry.wellFormed_put h.2 h.1 fs.wellFormed) }
  else fs

def splitLast? (p : Path) : Option (Path × Bytes) :=
  match ((Bytes.splitOn Path.separator p.bytes).filter (· ≠ [])).reverse with
  | [] => none
  | name :: above =>
    let above := above.reverse.intersperse [Path.separator]
    some (⟨(if p.isAbsolute then [Path.separator] else []) ++ above.flatten⟩, name)

/-- The location of a directory, which is made where it is missing, with those above it. -/
def ensureDirectory (fs : FileSystem) : Nat → Path → FileSystem × Option Location
  | 0, _ => (fs, none)
  | fuel + 1, p =>
    if p.bytes = [] then (fs, some fs.workingDirectory)
    else match fs.resolve p with
      | .ok (location, .directory _) => (fs, some location)
      | .ok _ => (fs, none)
      | .error _ =>
        match splitLast? p with
        | none => (fs, none)
        | some (above, name) =>
          match fs.ensureDirectory fuel above with
          | (fs, some location) =>
            let location := location ++ [name]
            (fs.put location (.directory []), some location)
          | (fs, none) => (fs, none)

/-- Where a file is made that is written to a path: the place that links, however many, point to. -/
def destination (fs : FileSystem) : Nat → Path → Path
  | 0, p => p
  | links + 1, p =>
    match fs.lookup false p with
    | .ok (location, .link target) =>
      fs.destination links
        (if target.isAbsolute then target else (pathOf location.dropLast).join target.bytes)
    | _ => p

def place (fs : FileSystem) (p : Path) (e : Entry) : FileSystem :=
  match splitLast? p with
  | none => fs
  | some (above, name) =>
    match fs.ensureDirectory (p.bytes.length + 1) above with
    | (fs, some location) => fs.put (location ++ [name]) e
    | (fs, none) => fs

/-- Puts an entry at a path. A file written through a link goes where the link leads, and a
directory that is there stays as it is. -/
def create (fs : FileSystem) (p : Path) (e : Entry) : FileSystem :=
  match e, fs.resolve p with
  | .file _, .ok (location, .file _) => fs.put location e
  | .file _, .error _ => fs.place (fs.destination maxLinks p) e
  | .directory _, .ok _ => fs
  | _, _ => fs.place p e

def delete (fs : FileSystem) (p : Path) : FileSystem :=
  match fs.lookup false p with
  | .ok (location, _) =>
    { fs with
      top := childrenOf (fs.root.remove location)
      wellFormed := wellFormed_childrenOf (Entry.wellFormed_remove fs.wellFormed) }
  | .error _ => fs

end FileSystem

end ProjectContext
