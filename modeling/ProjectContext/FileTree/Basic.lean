import ProjectContext.Path.Basic

/-!
# File trees

Files, directories and symbolic links as a value. A path is looked up part by part; a link puts its
target in front of the parts that are still to come.
-/

namespace ProjectContext

inductive Entry
  | file (content : Bytes)
  | link (target : Path)
  | directory (children : List (Bytes × Entry))
deriving Inhabited

/-- The names that lead from the top directory to an entry. -/
abbrev Location := List Bytes

inductive AccessError
  | notFound
  | notDirectory
  | isDirectory
  | nameTooLong
  | tooManyLinks
  | nulByte
  | notText
  /-- A source that holds no more than some named texts does not hold this one. -/
  | absent
deriving DecidableEq, Repr

def AccessError.message : AccessError → String
  | .notFound => "No such file or directory (os error 2)"
  | .notDirectory => "Not a directory (os error 20)"
  | .isDirectory => "Is a directory (os error 21)"
  | .nameTooLong => "File name too long (os error 36)"
  | .tooManyLinks => "Too many levels of symbolic links (os error 40)"
  | .nulByte => "file name contained an unexpected NUL byte"
  | .notText => "stream did not contain valid UTF-8"
  | .absent => "no such file"

namespace Entry

def isFile : Entry → Bool
  | .file _ => true
  | _ => false

def isDirectory : Entry → Bool
  | .directory _ => true
  | _ => false

def childOf? (name : Bytes) (children : List (Bytes × Entry)) : Option Entry :=
  (children.find? fun child => child.1 == name).map (·.2)

def at? : Location → Entry → Option Entry
  | [], e => some e
  | name :: names, .directory children => (childOf? name children).bind (at? names)
  | _ :: _, _ => none

def maxName : Nat := 255

def IsName (name : Bytes) : Prop :=
  Path.componentOfPart name = some (.normal name) ∧ Path.separator ∉ name ∧ 0 ∉ name ∧
    name.length ≤ maxName

instance (name : Bytes) : Decidable (IsName name) := inferInstanceAs (Decidable (_ ∧ _))

mutual

/-- The names in every directory are names of entries, and no two are alike. -/
def WellFormed : Entry → Prop
  | .file _ | .link _ => True
  | .directory children => (children.map (·.1)).Nodup ∧ ChildrenWellFormed children

def ChildrenWellFormed : List (Bytes × Entry) → Prop
  | [] => True
  | (name, e) :: rest => IsName name ∧ e.WellFormed ∧ ChildrenWellFormed rest

end

mutual

def decideWellFormed : (e : Entry) → Decidable e.WellFormed
  | .file _ | .link _ => isTrue trivial
  | .directory children =>
    have := decideChildrenWellFormed children
    inferInstanceAs (Decidable ((children.map (·.1)).Nodup ∧ ChildrenWellFormed children))

def decideChildrenWellFormed : (children : List (Bytes × Entry)) →
    Decidable (ChildrenWellFormed children)
  | [] => isTrue trivial
  | (name, e) :: rest =>
    have := e.decideWellFormed
    have := decideChildrenWellFormed rest
    inferInstanceAs (Decidable (IsName name ∧ e.WellFormed ∧ ChildrenWellFormed rest))

end

instance (e : Entry) : Decidable e.WellFormed := e.decideWellFormed

theorem childrenWellFormed_iff {children : List (Bytes × Entry)} :
    ChildrenWellFormed children ↔
      ∀ child ∈ children, IsName child.1 ∧ child.2.WellFormed := by
  induction children with
  | nil => simp [ChildrenWellFormed]
  | cons child rest ih =>
    obtain ⟨name, e⟩ := child
    simp only [ChildrenWellFormed, ih, List.forall_mem_cons, and_assoc]

theorem mem_of_childOf? {name : Bytes} {children : List (Bytes × Entry)} {e : Entry}
    (found : childOf? name children = some e) : (name, e) ∈ children := by
  obtain ⟨⟨other, _⟩, first, rfl⟩ := Option.map_eq_some_iff.mp found
  have same : other = name := by simpa using List.find?_some first
  exact same ▸ List.mem_of_find?_eq_some first

end Entry

/-- The files of a machine, the directory that relative paths start from, and the home directory. -/
structure FileSystem where
  top : List (Bytes × Entry) := []
  workingDirectory : Location := []
  home : Location := []
  wellFormed : (Entry.directory top).WellFormed := by decide

namespace FileSystem

def root (fs : FileSystem) : Entry := .directory fs.top

def maxLinks : Nat := 40

def maxPath : Nat := 4095

/-- Where a lookup stands when its parts are used up or a link has to be followed. -/
inductive Arrival
  | found (location : Location) (e : Entry)
  | link (directory : Location) (target : Path) (rest : List Bytes)
  | failed (error : AccessError)

/-- Follows parts from an entry up to the next link. A link at the very end is an arrival unless
`follow` is set. -/
def advance (fs : FileSystem) (follow : Bool) (location : Location) (e : Entry) :
    List Bytes → Arrival
  | [] => .found location e
  | part :: rest =>
    match e with
    | .directory children =>
      match Path.componentOfPart part with
      | none => fs.advance follow location e rest
      | some .parent =>
        let parent := location.dropLast
        fs.advance follow parent ((fs.root.at? parent).getD fs.root) rest
      | some _ =>
        if part.length > Entry.maxName then .failed .nameTooLong
        else match Entry.childOf? part children with
          | none => .failed .notFound
          | some (.link target) =>
            if rest.isEmpty && !follow then .found (location ++ [part]) (.link target)
            else .link location target rest
          | some child => fs.advance follow (location ++ [part]) child rest
    | _ => .failed .notDirectory

/-- Follows the parts of a path from a directory, and at most `links` links. -/
def walk (fs : FileSystem) (follow : Bool) : Nat → Location → List Bytes →
    Except AccessError (Location × Entry)
  | links, start, parts =>
    match fs.advance follow start ((fs.root.at? start).getD fs.root) parts with
    | .found location e => .ok (location, e)
    | .failed error => .error error
    | .link directory target rest =>
      match links with
      | 0 => .error .tooManyLinks
      | links + 1 =>
        fs.walk follow links (if target.isAbsolute then [] else directory)
          (Bytes.splitOn Path.separator target.bytes ++ rest)

def lookup (fs : FileSystem) (follow : Bool) (p : Path) : Except AccessError (Location × Entry) :=
  if 0 ∈ p.bytes then .error .nulByte
  else if p.bytes = [] then .error .notFound
  else if p.bytes.length > maxPath then .error .nameTooLong
  else fs.walk follow maxLinks (if p.isAbsolute then [] else fs.workingDirectory)
    (Bytes.splitOn Path.separator p.bytes)

def resolve (fs : FileSystem) (p : Path) : Except AccessError (Location × Entry) :=
  fs.lookup true p

def pathExists (fs : FileSystem) (p : Path) : Bool := (fs.resolve p).isOk

def isFile (fs : FileSystem) (p : Path) : Bool :=
  match fs.resolve p with
  | .ok (_, e) => e.isFile
  | .error _ => false

def readBytes (fs : FileSystem) (p : Path) : Except AccessError Bytes :=
  match fs.resolve p with
  | .ok (_, .file content) => .ok content
  | .ok _ => .error .isDirectory
  | .error e => .error e

def readText (fs : FileSystem) (p : Path) : Except AccessError String := do
  match Utf8.decode? (← fs.readBytes p) with
  | some text => .ok text
  | none => .error .notText

def pathOf (location : Location) : Path :=
  match location with
  | [] => ⟨[Path.separator]⟩
  | names => ⟨names.flatMap (Path.separator :: ·)⟩

end FileSystem

end ProjectContext
