import Mathlib.Data.List.Basic
import Mathlib.Data.List.Nodup
import Understudy.FileTree
import Understudy.Proofs.Path.Join

/-!
# Well-formed file trees

The entries of a directory have different names, and a name is one step of a path. So an entry is
found by its name, and whatever lies below a well-formed tree is well-formed.
-/

namespace Understudy

/-- No directory of the tree has two entries of one name, or one whose name is no step of a path. -/
inductive FileTree.IsWellFormed : FileTree → Prop
  | file (bytes : List UInt8) : IsWellFormed (.file bytes)
  | directory {entries : List (String × FileTree)} (hnodup : (entries.map Prod.fst).Nodup)
      (hnames : ∀ entry ∈ entries, Path.IsEntryName entry.1)
      (hbelow : ∀ entry ∈ entries, IsWellFormed entry.2) : IsWellFormed (.directory entries)

namespace FileTree

variable {entries : List (String × FileTree)} {name : String} {names : List String}
  {tree found : FileTree}

theorem mem_of_lookupEntry (h : lookupEntry name entries = some found) :
    (name, found) ∈ entries := by
  obtain ⟨before, after, rfl, _⟩ := List.lookup_eq_some_iff.mp h
  simp

theorem lookupEntry_eq_some_iff (hnodup : (entries.map Prod.fst).Nodup) :
    lookupEntry name entries = some found ↔ (name, found) ∈ entries := by
  refine ⟨mem_of_lookupEntry, fun hmem => ?_⟩
  obtain ⟨before, after, rfl⟩ := List.append_of_mem hmem
  apply List.lookup_eq_some_iff.mpr
  refine ⟨before, after, rfl, ?_⟩
  intro entry hentry
  rw [List.map_append, List.map_cons] at hnodup
  have hdisjoint := List.disjoint_of_nodup_append hnodup (List.mem_map_of_mem hentry)
  have hne : name ≠ entry.1 := fun heq => hdisjoint (List.mem_cons.mpr (.inl heq.symm))
  simpa using hne

/-- Below a directory a way of names begins with an entry. -/
theorem at?_directory_cons (hnodup : (entries.map Prod.fst).Nodup) :
    (directory entries).at? (name :: names) = some found ↔
      ∃ tree, (name, tree) ∈ entries ∧ tree.at? names = some found := by
  rw [at?]
  constructor
  · intro h
    cases hlookup : lookupEntry name entries with
    | none => simp [hlookup] at h
    | some tree => exact ⟨tree, mem_of_lookupEntry hlookup, by simpa [hlookup] using h⟩
  · rintro ⟨tree, hmem, hfound⟩
    rw [(lookupEntry_eq_some_iff hnodup).mpr hmem]
    exact hfound

namespace IsWellFormed

theorem at? (h : tree.IsWellFormed) (hfound : tree.at? names = some found) :
    found.IsWellFormed := by
  induction names generalizing tree with
  | nil =>
      cases hfound
      exact h
  | cons name rest ih =>
      cases h with
      | file bytes => cases hfound
      | directory hnodup hnames hbelow =>
          obtain ⟨next, hmem, hnext⟩ := (at?_directory_cons hnodup).mp hfound
          exact ih (hbelow _ hmem) hnext

theorem isEntryName (h : tree.IsWellFormed) (hfound : tree.at? names = some found) :
    ∀ name ∈ names, Path.IsEntryName name := by
  induction names generalizing tree with
  | nil => simp
  | cons name rest ih =>
      cases h with
      | file bytes => cases hfound
      | directory hnodup hnames hbelow =>
          obtain ⟨next, hmem, hnext⟩ := (at?_directory_cons hnodup).mp hfound
          exact List.forall_mem_cons.mpr ⟨hnames _ hmem, ih (hbelow _ hmem) hnext⟩

end IsWellFormed

end FileTree

theorem Workspace.isWellFormed_of_lookup {workspace : Workspace} {path : Path} {tree : FileTree}
    (h : workspace.root.IsWellFormed) (hlookup : workspace.lookup path = .ok tree) :
    tree.IsWellFormed := by
  unfold lookup at hlookup
  split at hlookup
  · cases hlookup
  · split at hlookup
    · next found hfound =>
      cases hlookup
      exact h.at? hfound
    · cases hlookup

end Understudy
