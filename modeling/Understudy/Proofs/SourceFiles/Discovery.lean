import Mathlib.Data.List.Chain
import Mathlib.Data.List.Sort
import Understudy.Proofs.FileTree.WellFormed
import Understudy.Proofs.Path.Order
import Understudy.SourceFiles

/-!
# Which files a list of arguments names

An argument that is a file stands for itself, and one that is a directory for the Swift files that
names lead to below it, none of them the name of a directory to skip. However the arguments
overlap, repeat or follow each other, the list of these files is strictly increasing, so that up to
spelling it depends on the set of the arguments alone (`SourceFiles.collect_sources`).
-/

namespace Understudy.SourceFiles

variable {workspace : Workspace} {arguments : List Path} {path found : Path} {tree : FileTree}
  {entries : List (String × FileTree)}

theorem mem_belowAmong_iff :
    found ∈ belowAmong path entries ↔
      ∃ entry ∈ entries, entry.1 ∉ skippedNames ∧ found ∈ below (path.join ⟨entry.1⟩) entry.2 := by
  induction entries with
  | nil => simp [belowAmong]
  | cons entry rest ih =>
      obtain ⟨name, tree⟩ := entry
      rw [belowAmong, List.mem_append, ih, List.exists_mem_cons_iff]
      apply or_congr_left
      by_cases hskipped : name ∈ skippedNames <;> simp [hskipped]

/-- Names that lead past every directory to skip. -/
def IsKept (names : List String) : Prop :=
  ∀ name ∈ names, name ∉ skippedNames

theorem isKept_cons {name : String} {names : List String} :
    IsKept (name :: names) ↔ name ∉ skippedNames ∧ IsKept names :=
  List.forall_mem_cons

/-- The walk finds the Swift files that names lead to. -/
theorem mem_below_iff (h : tree.IsWellFormed) (path : Path) :
    found ∈ below path tree ↔
      ∃ names bytes, tree.at? names = some (.file bytes) ∧ IsKept names ∧
        found = path.joinAll names ∧ isSwift found = true := by
  induction h generalizing path with
  | file bytes =>
      constructor
      · intro hfound
        by_cases hswift : isSwift path = true
        · obtain rfl : found = path := by simpa [below, hswift] using hfound
          exact ⟨[], bytes, rfl, by simp [IsKept], rfl, hswift⟩
        · simp [below, hswift] at hfound
      · rintro ⟨names, bytes, hfile, _, rfl, hswift⟩
        cases names with
        | nil =>
            have hpath : isSwift path = true := hswift
            simp [below, hpath, Path.joinAll]
        | cons name rest => cases hfile
  | @directory entries hnodup hnames hbelow ih =>
      rw [below, mem_belowAmong_iff]
      constructor
      · rintro ⟨⟨name, tree⟩, hentry, hname, hfound⟩
        obtain ⟨names, bytes, hfile, hkept, heq, hswift⟩ := (ih _ hentry _).mp hfound
        refine ⟨name :: names, bytes, ?_, isKept_cons.mpr ⟨hname, hkept⟩, heq, hswift⟩
        exact (FileTree.at?_directory_cons hnodup).mpr ⟨tree, hentry, hfile⟩
      · rintro ⟨names, bytes, hfile, hkept, heq, hswift⟩
        cases names with
        | nil => cases hfile
        | cons name rest =>
            obtain ⟨tree, hentry, hrest⟩ := (FileTree.at?_directory_cons hnodup).mp hfile
            obtain ⟨hname, hkept⟩ := isKept_cons.mp hkept
            exact ⟨_, hentry, hname, (ih _ hentry _).mpr ⟨rest, bytes, hrest, hkept, heq, hswift⟩⟩

theorem isSwift_congr (h : path.components = found.components) : isSwift path = isSwift found := by
  simp only [isSwift, Path.extension?, Path.fileName?, h]

/-- An argument that is a file names itself, and one that is a directory the Swift files that names
lead to below it, where no name is that of a directory to skip. -/
inductive Names (workspace : Workspace) (argument path : Path) : Prop
  | file {bytes : List UInt8} (hfile : workspace.lookup argument = .ok (.file bytes))
      (hsame : path.same argument)
  | below {entries : List (String × FileTree)} {names : List String} {bytes : List UInt8}
      (hdirectory : workspace.lookup argument = .ok (.directory entries))
      (hfile : (FileTree.directory entries).at? names = some (.file bytes)) (hkept : IsKept names)
      (hpath : path.components = argument.components ++ names.map .name)
      (hswift : isSwift path = true)

/-- Up to spelling, the files found for an argument are those that it names. -/
theorem exists_mem_ofArgument_iff (h : workspace.root.IsWellFormed) (argument : Path) :
    (∃ found ∈ ofArgument workspace argument, found.same path) ↔
      Names workspace argument path := by
  constructor
  · rintro ⟨found, hfound, hsame⟩
    cases hlookup : workspace.lookup argument with
    | error fault => simp [ofArgument, hlookup] at hfound
    | ok tree =>
        cases tree with
        | file bytes =>
            obtain rfl : found = argument := by simpa [ofArgument, hlookup] using hfound
            exact .file hlookup (Path.same_symm hsame)
        | directory entries =>
            have hform := Workspace.isWellFormed_of_lookup h hlookup
            have hwalk : found ∈ below argument (.directory entries) := by
              simpa [ofArgument, hlookup] using hfound
            obtain ⟨names, bytes, hfile, hkept, rfl, hswift⟩ :=
              (mem_below_iff hform argument).mp hwalk
            have hcomponents := Path.same_iff.mp hsame
            refine .below hlookup hfile hkept ?_ (isSwift_congr hcomponents ▸ hswift)
            rw [← hcomponents, Path.components_joinAll (hform.isEntryName hfile)]
  · intro hnames
    cases hnames with
    | file hfile hsame =>
        refine ⟨argument, ?_, Path.same_symm hsame⟩
        simp [ofArgument, hfile]
    | @below entries names bytes hdirectory hfile hkept hpath hswift =>
        have hform := Workspace.isWellFormed_of_lookup h hdirectory
        have hcomponents : (argument.joinAll names).components = path.components := by
          rw [hpath, Path.components_joinAll (hform.isEntryName hfile)]
        refine ⟨argument.joinAll names, ?_, Path.same_iff.mpr hcomponents⟩
        have hwalk : argument.joinAll names ∈ below argument (.directory entries) := by
          apply (mem_below_iff hform argument).mpr
          exact ⟨names, bytes, hfile, hkept, rfl, isSwift_congr hcomponents ▸ hswift⟩
        simpa [ofArgument, hdirectory] using hwalk

def ComponentsPrecede (left right : List Component) : Prop :=
  Path.compareComponents left right = .lt

instance : Std.Irrefl ComponentsPrecede where
  irrefl components hlt := by
    have heq : Path.compareComponents components components = .eq := Std.ReflCmp.compare_self
    rw [ComponentsPrecede, heq] at hlt
    cases hlt

instance : Std.Antisymm ComponentsPrecede where
  antisymm left right hlt hgt := by
    have hswap : Path.compareComponents right left = .gt := Std.OrientedCmp.gt_iff_lt.mpr hlt
    rw [ComponentsPrecede, hswap] at hgt
    cases hgt

/-- One path comes before another one in the order of components. -/
def Precedes (left right : Path) : Prop :=
  left.compare right = .lt

theorem precedes_iff {left right : Path} :
    Precedes left right ↔ ComponentsPrecede left.components right.components :=
  Iff.rfl

theorem Precedes.not_same {left right : Path} (h : Precedes left right) : ¬left.same right := by
  intro hsame
  rw [Precedes, Path.compare_eq_eq_iff_same.mpr hsame] at h
  cases h

theorem precedes_of_isLE {left right : Path} (h : (left.compare right).isLE = true)
    (hdiffer : left.same right = false) : Precedes left right := by
  rcases Ordering.isLE_iff_eq_lt_or_eq_eq.mp h with hlt | heq
  · exact hlt
  · rw [Path.compare_eq_eq_iff_same.mp heq] at hdiffer
    cases hdiffer

instance : IsTrans Path Precedes where
  trans _ _ _ hfirst hsecond := Std.TransCmp.lt_trans hfirst hsecond

theorem dropRepeats_sublist (paths : List Path) : (dropRepeats paths).Sublist paths := by
  fun_induction dropRepeats paths with
  | case1 => exact .slnil
  | case2 first rest hnone ih => exact (List.nil_sublist rest).cons_cons first
  | case3 first rest next others hothers hsame ih =>
      rw [hothers] at ih
      exact ((List.sublist_cons_self next others).trans ih).cons_cons first
  | case4 first rest next others hothers hdiffer ih =>
      rw [hothers] at ih
      exact ih.cons_cons first

/-- Every path is kept in some spelling. -/
theorem exists_mem_dropRepeats {paths : List Path} (h : path ∈ paths) :
    ∃ kept ∈ dropRepeats paths, kept.same path = true := by
  fun_induction dropRepeats paths with
  | case1 => cases h
  | case2 first rest hnone ih =>
      rcases List.mem_cons.mp h with rfl | hrest
      · exact ⟨path, List.mem_cons_self, Path.same_refl path⟩
      · obtain ⟨kept, hkept, _⟩ := ih hrest
        simp [hnone] at hkept
  | case3 first rest next others hothers hsame ih =>
      rcases List.mem_cons.mp h with rfl | hrest
      · exact ⟨path, List.mem_cons_self, Path.same_refl path⟩
      · obtain ⟨kept, hkept, hpath⟩ := ih hrest
        rw [hothers] at hkept
        rcases List.mem_cons.mp hkept with rfl | hkept
        · exact ⟨first, List.mem_cons_self, Path.same_trans hsame hpath⟩
        · exact ⟨kept, List.mem_cons_of_mem _ hkept, hpath⟩
  | case4 first rest next others hothers hdiffer ih =>
      rcases List.mem_cons.mp h with rfl | hrest
      · exact ⟨path, List.mem_cons_self, Path.same_refl path⟩
      · obtain ⟨kept, hkept, hpath⟩ := ih hrest
        rw [hothers] at hkept
        exact ⟨kept, List.mem_cons_of_mem _ hkept, hpath⟩

theorem isChain_dropRepeats {paths : List Path}
    (h : paths.Pairwise fun left right => (left.compare right).isLE = true) :
    (dropRepeats paths).IsChain Precedes := by
  fun_induction dropRepeats paths with
  | case1 => exact .nil
  | case2 first rest hnone ih => exact .singleton first
  | case3 first rest next others hothers hsame ih =>
      have hchain := ih h.of_cons
      rw [hothers] at hchain
      apply List.IsChain.imp_head _ hchain
      intro later hlater
      rwa [precedes_iff, Path.same_iff.mp hsame]
  | case4 first rest next others hothers hdiffer ih =>
      have hchain := ih h.of_cons
      rw [hothers] at hchain
      have hmem : next ∈ rest := by
        apply (dropRepeats_sublist rest).subset
        rw [hothers]
        exact List.mem_cons_self
      apply List.IsChain.cons_cons _ hchain
      exact precedes_of_isLE (List.rel_of_pairwise_cons h hmem) (by simpa using hdiffer)

theorem pairwise_collect (workspace : Workspace) (arguments : List Path) :
    (collect workspace arguments).Pairwise Precedes := by
  apply List.isChain_iff_pairwise.mp
  apply isChain_dropRepeats
  apply List.pairwise_mergeSort
  · intro first second third hfirst hsecond
    exact Std.TransCmp.isLE_trans hfirst hsecond
  · intro left right
    have hswap : left.compare right = (right.compare left).swap := Std.OrientedCmp.eq_swap
    rw [hswap]
    cases right.compare left <;> rfl

/-- A path stands in the list, in some spelling, if an argument names it. -/
theorem exists_mem_collect_iff (h : workspace.root.IsWellFormed) :
    (∃ found ∈ collect workspace arguments, found.same path) ↔
      ∃ argument ∈ arguments, Names workspace argument path := by
  constructor
  · rintro ⟨found, hfound, hsame⟩
    have hsorted := (dropRepeats_sublist _).subset hfound
    obtain ⟨argument, hargument, hfound⟩ := List.mem_flatMap.mp (List.mem_mergeSort.mp hsorted)
    exact ⟨argument, hargument, (exists_mem_ofArgument_iff h argument).mp ⟨found, hfound, hsame⟩⟩
  · rintro ⟨argument, hargument, hnames⟩
    obtain ⟨found, hfound, hsame⟩ := (exists_mem_ofArgument_iff h argument).mpr hnames
    have hmem : found ∈ arguments.flatMap (ofArgument workspace) :=
      List.mem_flatMap_of_mem hargument hfound
    obtain ⟨kept, hkept, hspelling⟩ := exists_mem_dropRepeats (List.mem_mergeSort.mpr hmem)
    exact ⟨kept, hkept, Path.same_trans hspelling hsame⟩

/-- Strictly increasing lists of the same paths are equal up to spelling. -/
theorem map_components_eq {left right : List Path} (hleft : left.Pairwise Precedes)
    (hright : right.Pairwise Precedes)
    (h : ∀ path, (∃ found ∈ left, found.same path) ↔ ∃ found ∈ right, found.same path) :
    left.map Path.components = right.map Path.components := by
  have hmem (paths : List Path) (path : Path) :
      path.components ∈ paths.map Path.components ↔ ∃ found ∈ paths, found.same path := by
    simp only [List.mem_map, Path.same_iff]
  have hleftPairs : (left.map Path.components).Pairwise ComponentsPrecede :=
    List.pairwise_map.mpr hleft
  have hrightPairs : (right.map Path.components).Pairwise ComponentsPrecede :=
    List.pairwise_map.mpr hright
  apply hleftPairs.eq_of_mem_iff hrightPairs
  intro components
  constructor
  · intro hcomponents
    obtain ⟨path, hpath, rfl⟩ := List.mem_map.mp hcomponents
    exact (hmem right path).mpr ((h path).mp ⟨path, hpath, Path.same_refl path⟩)
  · intro hcomponents
    obtain ⟨path, hpath, rfl⟩ := List.mem_map.mp hcomponents
    exact (hmem left path).mpr ((h path).mpr ⟨path, hpath, Path.same_refl path⟩)

/-- **The files that arguments name.** In a well-formed file tree the files found are strictly
increasing, so no two are the same path, and up to spelling they are those that some argument names.
Hence the order of the arguments and their repetitions do not show. -/
theorem collect_sources (h : workspace.root.IsWellFormed) (arguments : List Path) :
    (collect workspace arguments).Pairwise Precedes ∧
      Path.Distinct (collect workspace arguments) ∧
      (∀ path, (∃ found ∈ collect workspace arguments, found.same path) ↔
        ∃ argument ∈ arguments, Names workspace argument path) ∧
      ∀ others, (∀ argument, argument ∈ others ↔ argument ∈ arguments) →
        (collect workspace others).map Path.components =
          (collect workspace arguments).map Path.components := by
  have hincreasing := pairwise_collect workspace arguments
  refine ⟨hincreasing, hincreasing.imp Precedes.not_same, fun _ => exists_mem_collect_iff h, ?_⟩
  intro others hothers
  apply map_components_eq (pairwise_collect workspace others) hincreasing
  intro path
  rw [exists_mem_collect_iff h, exists_mem_collect_iff h]
  simp only [hothers]

def podEntries : List (String × FileTree) :=
  [("Lib.swift", .file []), ("Extra.swift", .file [])]

def sourceEntries : List (String × FileTree) :=
  [("App.swift", .file []), ("README.md", .file []), ("Pods", .directory podEntries)]

def podWorkspace : Workspace :=
  { root := .directory [("Sources", .directory sourceEntries)] }

/-- The same directory in two spellings, and one file of the directory to skip. -/
def overlappingArguments : List Path :=
  [⟨"Sources/"⟩, ⟨"Sources/Pods/Lib.swift"⟩, ⟨"./Sources"⟩, ⟨"Sources/"⟩]

theorem isWellFormed_podWorkspace : podWorkspace.root.IsWellFormed := by
  have hpods : (FileTree.directory podEntries).IsWellFormed := by
    apply FileTree.IsWellFormed.directory (by decide) (by decide)
    exact List.forall_mem_cons.mpr ⟨.file [], List.forall_mem_singleton.mpr (.file [])⟩
  have hsources : (FileTree.directory sourceEntries).IsWellFormed := by
    apply FileTree.IsWellFormed.directory (by decide) (by decide)
    exact List.forall_mem_cons.mpr
      ⟨.file [], List.forall_mem_cons.mpr ⟨.file [], List.forall_mem_singleton.mpr hpods⟩⟩
  apply FileTree.IsWellFormed.directory (by decide) (by decide)
  exact List.forall_mem_singleton.mpr hsources

theorem collect_sources_of_overlappingArguments :
    podWorkspace.root.IsWellFormed ∧
      (collect podWorkspace overlappingArguments).Pairwise Precedes ∧
      (∃ found ∈ collect podWorkspace overlappingArguments, found.same ⟨"Sources/App.swift"⟩) ∧
      (∃ found ∈ collect podWorkspace overlappingArguments,
        found.same ⟨"Sources/Pods/Lib.swift"⟩) ∧
      (collect podWorkspace overlappingArguments.reverse).map Path.components =
        (collect podWorkspace overlappingArguments).map Path.components := by
  have h := isWellFormed_podWorkspace
  obtain ⟨hincreasing, _, hnames, hset⟩ := collect_sources h overlappingArguments
  refine ⟨h, hincreasing, ?_, ?_, ?_⟩
  · apply (hnames _).mpr
    have hdirectory : podWorkspace.lookup ⟨"Sources/"⟩ = .ok (.directory sourceEntries) := rfl
    have hfile : (FileTree.directory sourceEntries).at? ["App.swift"] = some (.file []) := rfl
    have hkept : IsKept ["App.swift"] := by simp [IsKept, skippedNames]
    exact ⟨⟨"Sources/"⟩, by decide, .below hdirectory hfile hkept (by decide) (by decide)⟩
  · apply (hnames _).mpr
    have hfile : podWorkspace.lookup ⟨"Sources/Pods/Lib.swift"⟩ = .ok (.file []) := rfl
    exact ⟨⟨"Sources/Pods/Lib.swift"⟩, by decide, .file hfile (Path.same_refl _)⟩
  · exact hset _ fun argument => List.mem_reverse

end Understudy.SourceFiles
