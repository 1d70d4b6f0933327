import Mathlib.Data.List.Basic
import Understudy.FileTree
import Understudy.Proofs.Failure.Results
import Understudy.Proofs.Path.Order

/-!
# Spellings of one path

A file tree can refuse one spelling of a path and accept another, as with a slash after the name
of a file. But wherever a path leads is given by its components alone, so all spellings that can
be read have the same contents (`Workspace.coherent_disk`).
-/

namespace Understudy

namespace Path

variable {path : Path}

theorem segments_of_isAbsolute (h : path.isAbsolute) : ∃ rest, path.segments = "" :: rest := by
  simp only [isAbsolute, List.isPrefixOf_iff_prefix] at h
  obtain ⟨rest, htext⟩ := h
  rw [segments, ← htext]
  exact ⟨_, rfl⟩

end Path

namespace Workspace

variable {workspace : Workspace} {path other : Path} {names after : List String}

/-- Where a component leads to from a place. -/
def descend (names : List String) : Component → List String
  | .root => []
  | .current => names
  | .parent => names.dropLast
  | .name text => names ++ [text]

theorem eq_of_follow {segment : String} (h : workspace.follow names segment = .ok after) :
    after = (Path.laterComponent? segment).toList.foldl descend names := by
  unfold follow at h
  unfold Path.laterComponent?
  split at h
  · cases h
  · cases h
  · split_ifs at h ⊢
    all_goals
      cases h
      rfl

theorem eq_of_followAll {segments : List String}
    (h : workspace.followAll names segments = .ok after) :
    after = (segments.filterMap Path.laterComponent?).foldl descend names := by
  induction segments generalizing names with
  | nil =>
      cases h
      rfl
  | cons segment rest ih =>
      rw [followAll, List.foldlM_cons] at h
      obtain ⟨next, hnext, hrest⟩ := exists_of_bind_eq_ok h
      rw [ih hrest, eq_of_follow hnext, ← List.foldl_append]
      congr 1
      cases hcomponent : Path.laterComponent? segment with
      | none => rw [List.filterMap_cons_none hcomponent]; rfl
      | some component => rw [List.filterMap_cons_some hcomponent]; rfl

/-- The place of a path is given by its components. -/
theorem eq_of_locate (h : workspace.locate path = .ok names) :
    names = path.components.foldl descend workspace.directory := by
  unfold locate at h
  split_ifs at h
  have hnames := eq_of_followAll h
  unfold startOf at hnames
  unfold Path.components
  split_ifs at hnames with habsolute
  · obtain ⟨rest, hsegments⟩ := Path.segments_of_isAbsolute habsolute
    rw [hsegments] at hnames ⊢
    simpa [Path.firstComponent?, Path.laterComponent?, habsolute, descend] using hnames
  · rw [hnames]
    cases path.segments with
    | nil => rfl
    | cons first rest =>
        by_cases hempty : first = ""
        · simp [hempty, Path.firstComponent?, Path.laterComponent?, habsolute]
        by_cases hcurrent : first = "."
        · simp [hcurrent, Path.firstComponent?, Path.laterComponent?, descend]
        · cases hlater : Path.laterComponent? first <;>
            simp [Path.firstComponent?, hempty, hcurrent, hlater]

end Workspace

namespace Disk

/-- The file at a path has the contents, and so has every spelling of the path that can be read. -/
structure Keeps (disk : Disk) (path : Path) (bytes : List UInt8) : Prop where
  read : disk path = .ok bytes
  spelled : ∀ ⦃other found⦄, other.same path → disk other = .ok found → found = bytes

/-- Some spelling of the path can be read and has the contents. -/
def Shows (disk : Disk) (path : Path) (bytes : List UInt8) : Prop :=
  ∃ spelling : Path, spelling.same path ∧ disk spelling = .ok bytes

/-- The spellings of one path that can be read have the same contents. -/
def Coherent (disk : Disk) : Prop :=
  ∀ ⦃path bytes⦄, disk path = .ok bytes → disk.Keeps path bytes

theorem shows_of_read {disk : Disk} {path : Path} {bytes : List UInt8}
    (h : disk path = .ok bytes) : disk.Shows path bytes :=
  ⟨path, Path.same_refl path, h⟩

theorem Coherent.eq_of_shows {disk : Disk} (h : disk.Coherent) {path : Path}
    {first second : List UInt8} (hfirst : disk.Shows path first)
    (hsecond : disk.Shows path second) : first = second := by
  obtain ⟨left, hleft, hread⟩ := hfirst
  obtain ⟨right, hright, hother⟩ := hsecond
  exact (h hother).spelled (Path.same_trans hleft (Path.same_symm hright)) hread

end Disk

namespace Workspace

variable {workspace : Workspace} {path : Path} {bytes : List UInt8}

theorem at?_of_disk_eq_ok (h : workspace.disk path = .ok bytes) :
    workspace.root.at? (path.components.foldl descend workspace.directory) =
      some (.file bytes) := by
  unfold disk lookup at h
  cases hlocate : workspace.locate path with
  | error fault =>
      rw [hlocate] at h
      cases h
  | ok names =>
      rw [hlocate] at h
      rw [← eq_of_locate hlocate]
      cases hat : workspace.root.at? names with
      | none =>
          simp only [hat] at h
          cases h
      | some tree =>
          simp only [hat] at h
          cases tree with
          | file found =>
              cases h
              rfl
          | directory entries => cases h

/-- **All spellings of a path that a file tree can read have the same contents.** -/
theorem coherent_disk (workspace : Workspace) : workspace.disk.Coherent := by
  intro path bytes h
  refine ⟨h, fun other found hsame hother => ?_⟩
  have hpath := at?_of_disk_eq_ok h
  have hfound := at?_of_disk_eq_ok hother
  rw [Path.same_iff.mp hsame, hpath] at hfound
  cases hfound
  rfl

end Workspace

end Understudy
