import Mathlib.Data.List.Sort
import Mathlib.Data.String.Basic
import Understudy.OutputOptions

/-!
# The import lines of an output file

The lines are those of the modules that a contributing file imports or the settings ask for, less
the excluded ones. A line shows its module and its form, so one line a module and one module a line
come to the same, and both lists, of modules and of lines, are the members of a set in strictly
increasing order. Such a list depends on its members alone, and so the order of the files and
their repetitions do not show.
-/

namespace Understudy.OutputOptions

section SortedSet

variable {texts : List String} {text : String}

@[simp]
theorem mem_dropRepeats_iff : text ∈ sortedSet.dropRepeats texts ↔ text ∈ texts := by
  fun_induction sortedSet.dropRepeats texts with
  | case1 => rfl
  | case2 => rfl
  | case3 first next rest hsame ih =>
      obtain rfl : first = next := beq_iff_eq.mp hsame
      rw [ih]
      simp
  | case4 first next rest _ ih => rw [List.mem_cons, ih, List.mem_cons (a := text) (b := first)]

theorem pairwise_dropRepeats (h : texts.Pairwise (· ≤ ·)) :
    (sortedSet.dropRepeats texts).Pairwise (· < ·) := by
  fun_induction sortedSet.dropRepeats texts with
  | case1 => exact .nil
  | case2 => exact List.pairwise_singleton _ _
  | case3 first next rest _ ih => exact ih h.of_cons
  | case4 first next rest hdiffer ih =>
      have hrest : ∀ later ∈ next :: rest, next ≤ later := by
        intro later hlater
        rcases List.mem_cons.mp hlater with rfl | hlater
        · exact le_refl later
        · exact List.rel_of_pairwise_cons h.of_cons hlater
      have hlt : first < next := by
        apply lt_of_le_of_ne (List.rel_of_pairwise_cons h List.mem_cons_self)
        simpa using hdiffer
      refine List.pairwise_cons.mpr ⟨fun later hlater => ?_, ih h.of_cons⟩
      exact lt_of_lt_of_le hlt (hrest later (mem_dropRepeats_iff.mp hlater))

@[simp]
theorem mem_sortedSet_iff : text ∈ sortedSet texts ↔ text ∈ texts := by
  rw [sortedSet, mem_dropRepeats_iff, List.mem_mergeSort]

theorem pairwise_sortedSet (texts : List String) : (sortedSet texts).Pairwise (· < ·) := by
  apply pairwise_dropRepeats
  exact List.pairwise_mergeSort' (· ≤ ·) texts

/-- A strictly increasing list is known by its members. -/
theorem sortedSet_congr {left right : List String} (h : ∀ text, text ∈ left ↔ text ∈ right) :
    sortedSet left = sortedSet right := by
  apply (pairwise_sortedSet left).eq_of_mem_iff (pairwise_sortedSet right)
  intro text
  rw [mem_sortedSet_iff, mem_sortedSet_iff, h]

end SortedSet

variable {options : OutputOptions} {files : List Path} {imports : ImportMap}
  {module line : String}

/-- A statement of one of the files names the module. -/
def IsImported (files : List Path) (imports : ImportMap) (module : String) : Prop :=
  ∃ file ∈ files, ∃ statement ∈ imports.statements file, Import.module? statement = some module

/-- The modules that the output is to import. -/
def Selects (options : OutputOptions) (files : List Path) (imports : ImportMap)
    (module : String) : Prop :=
  (IsImported files imports module ∨ module ∈ options.customImports ∨
      module ∈ options.testableImports) ∧
    module ∉ options.excludedImports

/-- A line imports a module, in one of the two forms. -/
def Imports (line module : String) : Prop :=
  line = "import " ++ module ∨ line = "@testable import " ++ module

theorem mem_requestedModules_iff :
    module ∈ options.requestedModules files imports ↔
      IsImported files imports module ∨ module ∈ options.customImports ∨
        module ∈ options.testableImports := by
  simp only [requestedModules, IsImported, List.mem_append, List.mem_filterMap, List.mem_flatMap,
    or_assoc]
  refine or_congr_left ⟨?_, ?_⟩
  · rintro ⟨statement, ⟨file, hfile, hstatement⟩, hmodule⟩
    exact ⟨file, hfile, statement, hstatement, hmodule⟩
  · rintro ⟨file, hfile, statement, hstatement, hmodule⟩
    exact ⟨statement, ⟨file, hfile, hstatement⟩, hmodule⟩

theorem importLine_of_mem (h : module ∈ options.testableImports) :
    options.importLine module = "@testable import " ++ module := by
  rw [importLine, if_pos (List.contains_iff_mem.mpr h)]

theorem importLine_of_not_mem (h : module ∉ options.testableImports) :
    options.importLine module = "import " ++ module := by
  rw [importLine, if_neg (fun hmem => h (List.contains_iff_mem.mp hmem))]

theorem imports_importLine (options : OutputOptions) (module : String) :
    Imports (options.importLine module) module := by
  by_cases h : module ∈ options.testableImports
  · exact .inr (importLine_of_mem h)
  · exact .inl (importLine_of_not_mem h)

/-- The two forms differ in their first character. -/
theorem import_ne_testable (left right : String) :
    "import " ++ left ≠ "@testable import " ++ right := by
  intro heq
  have hfirst := congrArg (fun text => text.toList.head?) heq
  simp at hfirst

theorem Imports.unique {other : String} (h : Imports line module) (hother : Imports line other) :
    module = other := by
  rcases h with rfl | rfl <;> rcases hother with heq | heq
  · simpa using heq
  · exact absurd heq (import_ne_testable module other)
  · exact absurd heq.symm (import_ne_testable other module)
  · simpa using heq

theorem mem_importLines_iff :
    line ∈ options.importLines files imports ↔
      ∃ module, options.Selects files imports module ∧ line = options.importLine module := by
  rw [importLines, mem_sortedSet_iff, List.mem_map]
  refine exists_congr fun module => and_congr ?_ eq_comm
  rw [List.mem_filter, mem_sortedSet_iff, mem_requestedModules_iff, Bool.not_eq_true',
    List.contains_eq_mem, decide_eq_false_iff_not]
  rfl

theorem eq_importLine_of_imports (h : line ∈ options.importLines files imports)
    (hline : Imports line module) : line = options.importLine module := by
  obtain ⟨other, _, rfl⟩ := mem_importLines_iff.mp h
  rw [hline.unique (imports_importLine options other)]

theorem exists_line_iff :
    (∃ line ∈ options.importLines files imports, Imports line module) ↔
      options.Selects files imports module := by
  constructor
  · rintro ⟨line, hmem, hline⟩
    obtain ⟨other, hselects, rfl⟩ := mem_importLines_iff.mp hmem
    rwa [hline.unique (imports_importLine options other)]
  · intro hselects
    exact ⟨_, mem_importLines_iff.mpr ⟨module, hselects, rfl⟩, imports_importLine options module⟩

theorem IsImported.of_subset {others : List Path} (h : IsImported files imports module)
    (hsubset : files ⊆ others) : IsImported others imports module := by
  obtain ⟨file, hfile, himport⟩ := h
  exact ⟨file, hsubset hfile, himport⟩

/-- The lines depend on which files contribute, and not on their order or number. -/
theorem importLines_congr {others : List Path} (hleft : files ⊆ others) (hright : others ⊆ files) :
    options.importLines others imports = options.importLines files imports := by
  have himported : ∀ module, IsImported others imports module ↔ IsImported files imports module :=
    fun module => ⟨fun h => h.of_subset hright, fun h => h.of_subset hleft⟩
  have hmodules : sortedSet (options.requestedModules others imports) =
      sortedSet (options.requestedModules files imports) := by
    apply sortedSet_congr
    intro module
    rw [mem_requestedModules_iff, mem_requestedModules_iff, himported]
  rw [importLines, importLines, hmodules]

theorem testable_mem_importLines_iff :
    "@testable import " ++ module ∈ options.importLines files imports ↔
      options.Selects files imports module ∧ module ∈ options.testableImports := by
  constructor
  · intro hmem
    have hline := eq_importLine_of_imports hmem (.inr rfl)
    refine ⟨exists_line_iff.mp ⟨_, hmem, .inr rfl⟩, ?_⟩
    by_contra hplain
    rw [importLine_of_not_mem hplain] at hline
    exact import_ne_testable module module hline.symm
  · rintro ⟨hselects, htestable⟩
    exact mem_importLines_iff.mpr ⟨module, hselects, (importLine_of_mem htestable).symm⟩

theorem plain_mem_importLines_iff :
    "import " ++ module ∈ options.importLines files imports ↔
      options.Selects files imports module ∧ module ∉ options.testableImports := by
  constructor
  · intro hmem
    have hline := eq_importLine_of_imports hmem (.inl rfl)
    refine ⟨exists_line_iff.mp ⟨_, hmem, .inl rfl⟩, ?_⟩
    intro htestable
    rw [importLine_of_mem htestable] at hline
    exact import_ne_testable module module hline
  · rintro ⟨hselects, hplain⟩
    exact mem_importLines_iff.mpr ⟨module, hselects, (importLine_of_not_mem hplain).symm⟩

/-- **The import lines of an output.** They come in strictly increasing order, and each imports a
module. No two lines import one module, and a module has a line exactly when it is selected: a
contributing file imports it, or it is a custom or a testable one, and it is not excluded. The line
is the `@testable` one when the module is testable and the plain one otherwise. Files that are
listed in another order, or more than once, give the same lines. -/
theorem importLines_of_selected (options : OutputOptions) (files : List Path)
    (imports : ImportMap) :
    (options.importLines files imports).Pairwise (· < ·) ∧
    (∀ line ∈ options.importLines files imports, ∃ module, Imports line module) ∧
    (∀ module, ∀ line ∈ options.importLines files imports,
      ∀ other ∈ options.importLines files imports,
        Imports line module → Imports other module → line = other) ∧
    (∀ module, (∃ line ∈ options.importLines files imports, Imports line module) ↔
      options.Selects files imports module) ∧
    (∀ module, "@testable import " ++ module ∈ options.importLines files imports ↔
      options.Selects files imports module ∧ module ∈ options.testableImports) ∧
    (∀ module, "import " ++ module ∈ options.importLines files imports ↔
      options.Selects files imports module ∧ module ∉ options.testableImports) ∧
    ∀ others, others ⊆ files → files ⊆ others →
      options.importLines others imports = options.importLines files imports := by
  refine ⟨pairwise_sortedSet _, ?_, ?_, fun module => exists_line_iff,
    fun module => testable_mem_importLines_iff, fun module => plain_mem_importLines_iff, ?_⟩
  · intro line hline
    obtain ⟨module, _, rfl⟩ := mem_importLines_iff.mp hline
    exact ⟨module, imports_importLine options module⟩
  · intro module line hline other hother himports himported
    rw [eq_importLine_of_imports hline himports, eq_importLine_of_imports hother himported]
  · intro others hright hleft
    exact importLines_congr hleft hright

/-- `UIKit` is custom and excluded. -/
def overlappingOptions : OutputOptions :=
  { customImports := ["XCTest", "UIKit"]
    excludedImports := ["UIKit"]
    testableImports := ["App"] }

/-- Two files that import modules in both forms, among them a testable and an excluded one. -/
def overlappingImports : ImportMap :=
  ⟨[(⟨"A.swift"⟩, ["import Foundation", "import App", "import UIKit"]),
    (⟨"B.swift"⟩, ["@testable import Foundation", "@testable import App"])]⟩

/-- Each overlap leaves one line or none, for the two files in either order. -/
theorem importLines_of_overlappingOptions :
    ["@testable import App", "import Foundation", "import XCTest"] ⊆
      overlappingOptions.importLines [⟨"A.swift"⟩, ⟨"B.swift"⟩] overlappingImports ∧
    (¬∃ line ∈ overlappingOptions.importLines [⟨"A.swift"⟩, ⟨"B.swift"⟩] overlappingImports,
      Imports line "UIKit") ∧
    overlappingOptions.importLines [⟨"B.swift"⟩, ⟨"A.swift"⟩, ⟨"B.swift"⟩] overlappingImports =
      overlappingOptions.importLines [⟨"A.swift"⟩, ⟨"B.swift"⟩] overlappingImports := by
  obtain ⟨_, _, _, hlines, htestable, hplain, hcongr⟩ :=
    importLines_of_selected overlappingOptions [⟨"A.swift"⟩, ⟨"B.swift"⟩] overlappingImports
  have hfoundation : IsImported [⟨"A.swift"⟩, ⟨"B.swift"⟩] overlappingImports "Foundation" :=
    ⟨⟨"B.swift"⟩, by decide, "@testable import Foundation", by decide +kernel, by decide +kernel⟩
  refine ⟨?_, ?_, ?_⟩
  · rintro line (_ | ⟨_, _ | ⟨_, _ | ⟨_, ⟨⟩⟩⟩⟩)
    · exact (htestable "App").mpr ⟨⟨.inr (.inr (by decide)), by decide⟩, by decide⟩
    · exact (hplain "Foundation").mpr ⟨⟨.inl hfoundation, by decide⟩, by decide⟩
    · exact (hplain "XCTest").mpr ⟨⟨.inr (.inl (by decide)), by decide⟩, by decide⟩
  · intro himported
    exact ((hlines "UIKit").mp himported).2 (by decide)
  · exact hcongr _ (by decide) (by decide)

end Understudy.OutputOptions
