import ProjectContext.FileTree.Basic

/-!
# Where paths lead

A path leads to an entry of the file system, and what is below that entry is well formed
(`wellFormed_of_resolve`).
-/

namespace ProjectContext

namespace Entry

theorem wellFormed_child {name : Bytes} {children : List (Bytes × Entry)} {e : Entry}
    (valid : (directory children).WellFormed) (member : (name, e) ∈ children) :
    IsName name ∧ e.WellFormed :=
  childrenWellFormed_iff.mp valid.2 _ member

theorem wellFormed_at? {location : Location} {e found : Entry} (valid : e.WellFormed)
    (leads : e.at? location = some found) : found.WellFormed := by
  induction location generalizing e with
  | nil =>
    obtain rfl : e = found := by simpa [at?] using leads
    exact valid
  | cons name names ih =>
    cases e with
    | file content => cases leads
    | link target => cases leads
    | directory children =>
      obtain ⟨child, first, leads⟩ := Option.bind_eq_some_iff.mp leads
      exact ih (wellFormed_child valid (mem_of_childOf? first)).2 leads

end Entry

namespace FileSystem

variable {fs : FileSystem} {follow : Bool} {location : Location} {found : Entry}

theorem wellFormed_start (fs : FileSystem) (start : Location) :
    ((fs.root.at? start).getD fs.root).WellFormed := by
  cases leads : fs.root.at? start with
  | none => exact fs.wellFormed
  | some e => exact Entry.wellFormed_at? fs.wellFormed leads

theorem wellFormed_of_advance {start : Location} {e : Entry} {parts : List Bytes}
    (valid : e.WellFormed) (arrived : fs.advance follow start e parts = .found location found) :
    found.WellFormed := by
  induction parts generalizing start e with
  | nil =>
    obtain ⟨-, rfl⟩ : start = location ∧ e = found := by simpa [advance] using arrived
    exact valid
  | cons part rest ih =>
    cases e with
    | file content => cases arrived
    | link target => cases arrived
    | directory children =>
      rw [advance] at arrived
      split at arrived
      · exact ih valid arrived
      · exact ih (wellFormed_start fs _) arrived
      · split at arrived
        · cases arrived
        · split at arrived
          · cases arrived
          · split at arrived
            · cases arrived
              trivial
            · cases arrived
          · rename_i child first
            exact ih (Entry.wellFormed_child valid (Entry.mem_of_childOf? first)).2 arrived

theorem wellFormed_of_walk {links : Nat} {start : Location} {parts : List Bytes}
    (leads : fs.walk follow links start parts = .ok (location, found)) : found.WellFormed := by
  induction links generalizing start parts with
  | zero =>
    rw [walk] at leads
    split at leads
    · rename_i arrived
      cases leads
      exact wellFormed_of_advance (wellFormed_start fs start) arrived
    · cases leads
    · cases leads
  | succ links ih =>
    rw [walk] at leads
    split at leads
    · rename_i arrived
      cases leads
      exact wellFormed_of_advance (wellFormed_start fs start) arrived
    · cases leads
    · exact ih leads

theorem wellFormed_of_resolve {p : Path} (leads : fs.resolve p = .ok (location, found)) :
    found.WellFormed := by
  rw [resolve, lookup] at leads
  split at leads
  · cases leads
  · split at leads
    · cases leads
    · split at leads
      · cases leads
      · exact wellFormed_of_walk leads

end FileSystem

end ProjectContext
