import Mathlib.Data.Bool.AllAny
import Understudy.Proofs.Import.Statement
import Understudy.SyntaxTree.Collected

/-!
# The imports of a file

Imports are collected in two ways: as the lines before the first declaration that look like
imports, and as the texts of the import nodes of a syntax tree. The nodes name the modules of the
statements whenever the keyword is found in them. The lines do so if every statement is found and
has no comment that ends in another word, and no other line looks like an import.
-/

namespace Understudy

namespace Import

open Text
open scoped List

section Compare

variable {α β : Type} {items : List α} {read named : α → Option β}

theorem length_filterMap_le (h : ∀ item ∈ items, named item = none → read item = none) :
    (items.filterMap read).length ≤ (items.filterMap named).length := by
  induction items with
  | nil => rfl
  | cons item rest ih =>
      obtain ⟨hitem, hrest⟩ := List.forall_mem_cons.mp h
      have hle := ih hrest
      cases hnamed : named item with
      | none => simpa [List.filterMap_cons, hnamed, hitem hnamed] using hle
      | some value =>
          cases hread : read item with
          | none =>
              simp only [List.filterMap_cons, hnamed, hread, List.length_cons]
              omega
          | some other => simpa [List.filterMap_cons, hnamed, hread] using hle

/-- Two readings of a list give the same only item by item, when one of them finds nothing that the
other does not. -/
theorem filterMap_eq_iff (h : ∀ item ∈ items, named item = none → read item = none) :
    items.filterMap read = items.filterMap named ↔ ∀ item ∈ items, read item = named item := by
  refine ⟨fun heq => ?_, List.filterMap_congr⟩
  induction items with
  | nil => simp
  | cons item rest ih =>
      obtain ⟨hitem, hrest⟩ := List.forall_mem_cons.mp h
      rw [List.forall_mem_cons]
      cases hnamed : named item with
      | none =>
          have hread := hitem hnamed
          rw [List.filterMap_cons_none hread, List.filterMap_cons_none hnamed] at heq
          exact ⟨hread, ih hrest heq⟩
      | some value =>
          cases hread : read item with
          | none =>
              -- then a value is missing, and nothing can make up for it
              have hle := length_filterMap_le hrest
              rw [List.filterMap_cons_none hread, List.filterMap_cons_some hnamed] at heq
              rw [heq, List.length_cons] at hle
              omega
          | some other =>
              rw [List.filterMap_cons_some hread, List.filterMap_cons_some hnamed] at heq
              obtain ⟨rfl, hlater⟩ := List.cons.inj heq
              exact ⟨rfl, ih hrest hlater⟩

end Compare

/-- A line of the part of a file before its first declaration. -/
inductive HeaderLine where
  | statement (line : Line)
  | other (text : List Char)
deriving DecidableEq

namespace HeaderLine

def text : HeaderLine → List Char
  | .statement line => line.text
  | .other text => text

def statement? : HeaderLine → Option Statement
  | .statement line => some line.statement
  | .other _ => none

/-- The module of the statement on the line. -/
def module? (line : HeaderLine) : Option String :=
  line.statement?.map Statement.module

def IsWritten : HeaderLine → Prop
  | .statement line => line.IsWritten
  | .other text => '\n' ∉ text

/-- A statement names its module, on its line and in a node. -/
def IsLegible : HeaderLine → Prop
  | .statement line =>
      line.IsSpaced ∧ line.EndsInPath ∧ "import ".toList <:+: line.statement.text
  | .other _ => True

/-- A line without a statement does not look like an import. -/
def IsSilent : HeaderLine → Prop
  | .statement _ => True
  | .other text => isImportLine (trim text) = false

instance : DecidablePred IsLegible
  | .statement line => inferInstanceAs (Decidable
      (line.IsSpaced ∧ line.EndsInPath ∧ "import ".toList <:+: line.statement.text))
  | .other _ => .isTrue trivial

instance : DecidablePred IsSilent
  | .statement _ => .isTrue trivial
  | .other text => inferInstanceAs (Decidable (isImportLine (trim text) = false))

variable {line : HeaderLine}

theorem IsWritten.oneLine (h : line.IsWritten) : '\n' ∉ line.text := by
  cases line with
  | statement line => exact Line.IsWritten.oneLine h
  | other text => exact h

/-- What the module of a node is read from. -/
def nodeModule? (line : HeaderLine) : Option String :=
  line.statement?.bind fun statement => Import.module? (String.ofList statement.text)

theorem IsWritten.isLegible_iff (h : line.IsWritten) (hsilent : line.IsSilent) :
    line.IsLegible ↔ lineModule? line.text = line.module? ∧ line.nodeModule? = line.module? := by
  cases line with
  | statement line =>
      have hline := Line.IsWritten.lineModule?_eq_iff h
      have hnode := (Line.IsWritten.statement h).module?_text_iff
      exact and_assoc.symm.trans (and_congr hline.symm hnode.symm)
  | other text =>
      have hnone : lineModule? text = none := lineModule?_eq_none_iff.mpr hsilent
      exact iff_of_true trivial ⟨hnone, rfl⟩

end HeaderLine

/-- The text before the first declaration. -/
def headerText (header : List HeaderLine) : List Char :=
  ['\n'].intercalate (header.map HeaderLine.text)

variable {header : List HeaderLine}

theorem splitWhere_headerText (hne : header ≠ []) (h : ∀ line ∈ header, line.IsWritten) :
    splitWhere (· == '\n') (headerText header) = header.map HeaderLine.text := by
  refine @splitWhere_intercalate '\n' (· == '\n') rfl _ (by simpa using hne) ?_
  intro piece hpiece c hc
  obtain ⟨line, hline, rfl⟩ := List.mem_map.mp hpiece
  rw [beq_eq_false_iff_ne]
  rintro rfl
  exact (h line hline).oneLine hc

/-- The import lines are found among the pieces between line feeds. -/
theorem filter_lines_headerText (h : ∀ line ∈ header, line.IsWritten) :
    ((lines (headerText header)).map trim).filter isImportLine =
      ((header.map HeaderLine.text).map trim).filter isImportLine := by
  by_cases hne : header = []
  · subst hne
    rfl
  · rw [← splitWhere_headerText hne h]
    rcases map_trim_lines (headerText header) with hlines | hlines
    · rw [hlines]
    · have hnil : isImportLine [] = false := by decide
      rw [← hlines, List.filter_append, List.filter_cons_of_neg (by simp [hnil])]
      simp

/-- The modules that are read before the first declaration, line by line. -/
theorem modules_before (h : ∀ line ∈ header, line.IsWritten) (rest : List Char) :
    (before (String.ofList (headerText header ++ rest))
        (byteLength (headerText header))).filterMap module? =
      header.filterMap fun line => lineModule? line.text := by
  have hread (text : List Char) : lineModule? text =
      (Option.guard isImportLine (trim text)).bind fun line => module? (String.ofList line) := by
    rw [lineModule?]
    by_cases hline : isImportLine (trim text) = true <;> simp [hline, Option.guard]
  rw [before, String.toList_ofList, takeBytes_append, filter_lines_headerText h,
    List.filterMap_map, ← List.filterMap_eq_filter, List.filterMap_filterMap, List.filterMap_map,
    List.filterMap_map]
  exact List.filterMap_congr fun line _ => (hread line.text).symm

/-! ### The import nodes of a tree -/

/-- An import node that covers a statement. -/
structure Covers (source : List Char) (tree : SyntaxTree) (statement : Statement) : Prop where
  isNamed : tree.isNamed = true
  isImport : tree.isImport = true
  slice : slice? source tree.start tree.stop = some statement.text

section Nodes

variable {context : SourceContext} {nodes : List SyntaxTree}

theorem collect_of_covers {tree : SyntaxTree} {statement : Statement}
    (h : Covers context.source.toList tree statement) (hwritten : statement.IsWritten) :
    tree.collect context = .ok { imports := [String.ofList statement.text] } := by
  have htext : tree.text context.source.toList = statement.text := by
    rw [SyntaxTree.text, h.slice, Option.getD_some]
  have himport := h.isImport
  obtain ⟨kind, named, start, stop, field, children⟩ := tree
  rw [SyntaxTree.collect]
  simp only [himport, if_true, htext, hwritten.trim_text]

/-- The nodes of a tree give the texts of the statements. -/
theorem collectAmong_of_covers {statements : List Statement}
    (h : List.Forall₂ (Covers context.source.toList) nodes statements)
    (hwritten : ∀ statement ∈ statements, statement.IsWritten) :
    SyntaxTree.collectAmong context nodes =
      .ok { imports := statements.map fun statement => String.ofList statement.text } := by
  induction h with
  | nil => rfl
  | cons hcovers _ ih =>
      obtain ⟨hstatement, hrest⟩ := List.forall_mem_cons.mp hwritten
      rw [SyntaxTree.collectAmong, if_pos hcovers.isNamed, collect_of_covers hcovers hstatement,
        ih hrest]
      rfl

theorem isWritten_of_mem {statement : Statement} (h : ∀ line ∈ header, line.IsWritten)
    (hmem : statement ∈ header.filterMap HeaderLine.statement?) : statement.IsWritten := by
  obtain ⟨line, hline, hstatement⟩ := List.mem_filterMap.mp hmem
  cases line with
  | statement line =>
      cases hstatement
      exact Line.IsWritten.statement (h _ hline)
  | other text => cases hstatement

/-- The modules that the lines before the first declaration and the nodes of a tree name are both
those of the statements. -/
structure NamesModules (header : List HeaderLine) (lines nodes : List String) : Prop where
  lines : lines.filterMap module? = header.filterMap HeaderLine.module?
  nodes : nodes.filterMap module? = header.filterMap HeaderLine.module?

theorem namesModules_iff (h : ∀ line ∈ header, line.IsWritten) (rest : List Char) :
    NamesModules header
        (before (String.ofList (headerText header ++ rest)) (byteLength (headerText header)))
        ((header.filterMap HeaderLine.statement?).map fun statement =>
          String.ofList statement.text) ↔
      header.filterMap (fun line => lineModule? line.text) = header.filterMap HeaderLine.module? ∧
      header.filterMap HeaderLine.nodeModule? = header.filterMap HeaderLine.module? := by
  have hnodes : ((header.filterMap HeaderLine.statement?).map fun statement =>
      String.ofList statement.text).filterMap module? =
        header.filterMap HeaderLine.nodeModule? := by
    rw [List.filterMap_map, List.filterMap_filterMap]
    rfl
  rw [← modules_before h rest, ← hnodes]
  exact ⟨fun hnames => ⟨hnames.lines, hnames.nodes⟩, fun hboth => ⟨hboth.1, hboth.2⟩⟩

/-- Where no other line looks like an import, every statement has to be legible. -/
theorem forall_isLegible_iff (h : ∀ line ∈ header, line.IsWritten)
    (hsilent : ∀ line ∈ header, line.IsSilent) :
    (∀ line ∈ header, line.IsLegible) ↔
      header.filterMap (fun line => lineModule? line.text) = header.filterMap HeaderLine.module? ∧
      header.filterMap HeaderLine.nodeModule? = header.filterMap HeaderLine.module? := by
  rw [filterMap_eq_iff, filterMap_eq_iff, ← forall₂_and]
  · exact forall₂_congr fun line hline => (h line hline).isLegible_iff (hsilent line hline)
  · intro line _ hnone
    cases line with
    | statement line => cases hnone
    | other text => rfl
  · intro line hline hnone
    cases line with
    | statement line => cases hnone
    | other text => exact lineModule?_eq_none_iff.mpr (hsilent _ hline)

/-- Where every statement is legible, no other line may look like an import. -/
theorem forall_isSilent_of_eq (h : ∀ line ∈ header, line.IsWritten)
    (hlegible : ∀ line ∈ header, line.IsLegible)
    (heq : header.filterMap (fun line => lineModule? line.text) =
      header.filterMap HeaderLine.module?) : ∀ line ∈ header, line.IsSilent := by
  have hitems := (filterMap_eq_iff ?_).mp heq.symm
  · intro line hline
    cases line with
    | statement line => trivial
    | other text => exact lineModule?_eq_none_iff.mp (hitems _ hline).symm
  · intro line hline hnone
    cases line with
    | statement line =>
        obtain ⟨hspaced, hends, _⟩ := hlegible _ hline
        have hread := (Line.IsWritten.lineModule?_eq_iff (h _ hline)).mpr ⟨hspaced, hends⟩
        simp [HeaderLine.text, hread] at hnone
    | other text => rfl

/-- **The modules of import statements.** The nodes that cover the statements of a header are
collected with their texts. Suppose that no other line looks like an import. Then both these texts
and the lines before the first declaration name the modules of the statements, in order, exactly if
every statement is legible: its keyword is found, on the line and in the node, and a comment behind
it ends in the path of the module, if there is one. Where all statements are legible, both name the
modules exactly if no other line looks like an import. -/
theorem namesModules_iff_isLegible (h : ∀ line ∈ header, line.IsWritten) {rest : List Char}
    (hsource : context.source = String.ofList (headerText header ++ rest))
    (hnodes : List.Forall₂ (Covers context.source.toList) nodes
      (header.filterMap HeaderLine.statement?)) :
    ∃ found, SyntaxTree.collectAmong context nodes = .ok found ∧
      found.imports = (header.filterMap HeaderLine.statement?).map
        (fun statement => String.ofList statement.text) ∧
      ((∀ line ∈ header, line.IsSilent) →
        (NamesModules header (before context.source (byteLength (headerText header)))
            found.imports ↔
          ∀ line ∈ header, line.IsLegible)) ∧
      ((∀ line ∈ header, line.IsLegible) →
        (NamesModules header (before context.source (byteLength (headerText header)))
            found.imports ↔
          ∀ line ∈ header, line.IsSilent)) := by
  refine ⟨_, collectAmong_of_covers hnodes fun _ => isWritten_of_mem h, rfl, ?_, ?_⟩
  · intro hsilent
    rw [hsource, namesModules_iff h rest, forall_isLegible_iff h hsilent]
  · intro hlegible
    rw [hsource, namesModules_iff h rest]
    constructor
    · exact fun hboth => forall_isSilent_of_eq h hlegible hboth.1
    · exact fun hsilent => (forall_isLegible_iff h hsilent).mp hlegible

end Nodes

def contextOf (header : List HeaderLine) (rest : String) : SourceContext :=
  ⟨⟨"ApiMock.swift"⟩, String.ofList (headerText header ++ rest.toList), true, "@mockable", {}⟩

def importNode (start stop : Nat) : SyntaxTree :=
  .node "import_declaration" true start stop none []

def plainImport : Line :=
  { indent := []
    statement := ⟨[], [' '], none, "Foundation".toList⟩
    blanks := ['\r']
    comment := none }

def attributedImport : Line :=
  { indent := ['\t']
    statement := ⟨"@_spi(Core) @testable ".toList, [' '], some ("struct", [' ', ' ']),
      "Core.Models".toList⟩
    blanks := [' ']
    comment := some "// see Core.Models".toList }

def legibleHeader : List HeaderLine :=
  [.other "// import Old".toList, .statement plainImport, .statement attributedImport, .other []]

theorem isWritten_plainImport : plainImport.IsWritten where
  statement :=
    { attributes := by rintro c ⟨⟩
      gap_ne_nil := by decide
      gap := List.all_iff_forall_prop.mp (by decide)
      kind := by rintro entry ⟨⟩
      path_ne_nil := by decide
      path := List.all_iff_forall_prop.mp (by decide) }
  indent := by rintro c ⟨⟩
  blanks := List.all_iff_forall_prop.mp (by decide)
  comment := by rintro comment ⟨⟩
  oneLine := by decide

theorem isWritten_attributedImport : attributedImport.IsWritten where
  statement :=
    { attributes := by
        rintro c ⟨⟩
        rfl
      gap_ne_nil := by decide
      gap := List.all_iff_forall_prop.mp (by decide)
      kind := by
        rintro entry ⟨⟩
        exact ⟨by decide, by decide, List.all_iff_forall_prop.mp (by decide)⟩
      path_ne_nil := by decide
      path := List.all_iff_forall_prop.mp (by decide) }
  indent := List.all_iff_forall_prop.mp (by decide)
  blanks := List.all_iff_forall_prop.mp (by decide)
  comment := by decide
  oneLine := by decide

theorem isWritten_legibleHeader : ∀ line ∈ legibleHeader, line.IsWritten := by
  have hold : '\n' ∉ "// import Old".toList := by decide
  simp only [legibleHeader, List.forall_mem_cons]
  exact ⟨hold, isWritten_plainImport, isWritten_attributedImport, List.not_mem_nil, by simp⟩

/-- Two statements, one of them with attributes, a kind and a comment, name their modules. -/
theorem namesModules_of_legibleHeader :
    (∀ line ∈ legibleHeader, line.IsWritten) ∧
    (∀ line ∈ legibleHeader, line.IsSilent) ∧
    (∀ line ∈ legibleHeader, line.IsLegible) ∧
    ∃ found,
      SyntaxTree.collectAmong (contextOf legibleHeader "class ApiMock {}")
        [importNode 14 31, importNode 34 82] = .ok found ∧
      found.imports = ["import Foundation", "@_spi(Core) @testable import struct  Core.Models"] ∧
      legibleHeader.filterMap HeaderLine.module? = ["Foundation", "Core.Models"] ∧
      NamesModules legibleHeader
        (before (contextOf legibleHeader "class ApiMock {}").source
          (byteLength (headerText legibleHeader))) found.imports := by
  have hsilent : ∀ line ∈ legibleHeader, line.IsSilent := by decide +kernel
  have hlegible : ∀ line ∈ legibleHeader, line.IsLegible := by decide +kernel
  have hsource : (contextOf legibleHeader "class ApiMock {}").source.toList =
      headerText legibleHeader ++ "class ApiMock {}".toList := String.toList_ofList
  have hnodes : List.Forall₂
      (Covers (contextOf legibleHeader "class ApiMock {}").source.toList)
      [importNode 14 31, importNode 34 82] [plainImport.statement, attributedImport.statement] :=
    .cons ⟨rfl, rfl, by rw [hsource]; decide +kernel⟩
      (.cons ⟨rfl, rfl, by rw [hsource]; decide +kernel⟩ .nil)
  obtain ⟨found, hfound, htexts, hnames, _⟩ :=
    namesModules_iff_isLegible isWritten_legibleHeader
      (rfl : (contextOf legibleHeader "class ApiMock {}").source = _) hnodes
  refine ⟨isWritten_legibleHeader, hsilent, hlegible, found, hfound, ?_, by decide +kernel,
    (hnames hsilent).mpr hlegible⟩
  rw [htexts]
  decide +kernel

def remarkedImport : Line :=
  { plainImport with blanks := [' '], comment := some "// base types".toList }

/-- A comment behind an import is taken for its module. -/
theorem not_namesModules_of_comment :
    remarkedImport.IsWritten ∧ remarkedImport.text = "import Foundation // base types".toList ∧
    ∃ header, header = [.statement remarkedImport, .other []] ∧
      (before (contextOf header "class ApiMock {}").source
        (byteLength (headerText header))).filterMap module? = ["types"] ∧
      header.filterMap HeaderLine.module? = ["Foundation"] ∧
      ∀ nodes, ¬NamesModules header
        (before (contextOf header "class ApiMock {}").source (byteLength (headerText header)))
        nodes := by
  have hwritten : remarkedImport.IsWritten :=
    { isWritten_plainImport with
      blanks := List.all_iff_forall_prop.mp (by decide)
      comment := by decide
      oneLine := by decide }
  have hread : (before (contextOf [.statement remarkedImport, .other []] "class ApiMock {}").source
      (byteLength (headerText [.statement remarkedImport, .other []]))).filterMap module? =
        ["types"] := by
    decide +kernel
  refine ⟨hwritten, by decide, _, rfl, hread, by decide +kernel, fun nodes hnames => ?_⟩
  have hlines := hnames.lines
  rw [hread] at hlines
  exact absurd hlines (by decide +kernel)

end Import

end Understudy
