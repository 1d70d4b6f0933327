import Understudy.Proofs.Dispatch.Outcome
import Understudy.Proofs.Generation.Origin

/-!
# How the reading of a file fails

A file that cannot be read and a declaration that is inconsistent are failures of a file, and
neither names the file as one that was being processed. The dispatch adds that name, once. So what
a dispatch over source files or over files of mocks reports is always the failure of a started
file in the name of that file, and its imports are those of a sequential run.
-/

namespace Understudy

variable {context : SourceContext}

theorem Method.namesNoFile_ofDeclaration (declaration : Declaration) :
    NamesNoFile (ofDeclaration context declaration) := by
  simp only [ofDeclaration]
  split
  · exact namesNoFile_ok _
  · exact namesNoFile_error rfl

theorem Member.namesNoFile_ofDeclaration? (declaration : Declaration) :
    NamesNoFile (ofDeclaration? context declaration) := by
  have hmethod : NamesNoFile (Method.ofDeclaration context declaration) :=
    Method.namesNoFile_ofDeclaration declaration
  unfold ofDeclaration?
  split
  · exact hmethod.map _
  · exact hmethod.map _
  · exact hmethod.map _
  · split
    · exact hmethod.map _
    · exact namesNoFile_ok _
  · exact namesNoFile_ok none

namespace Entity

theorem namesNoFile_membersOf (declarations : List Declaration) :
    NamesNoFile (membersOf context declarations) := by
  induction declarations with
  | nil => exact namesNoFile_ok []
  | cons declaration rest ih =>
      have hfirst : NamesNoFile (Member.ofDeclaration? context declaration) :=
        Member.namesNoFile_ofDeclaration? declaration
      rw [membersOf]
      split
      · next failure herror => exact namesNoFile_error (hfirst failure herror)
      · exact ih.map _

theorem namesNoFile_ofDeclaration (declaration : Declaration) :
    NamesNoFile (ofDeclaration context declaration) :=
  (namesNoFile_membersOf declaration.children).map _

theorem namesNoFile_allOf (declarations : List Declaration) :
    NamesNoFile (allOf context declarations) := by
  induction declarations with
  | nil => exact namesNoFile_ok []
  | cons declaration rest ih =>
      rw [allOf, List.mapM_cons]
      exact (namesNoFile_ofDeclaration declaration).bind fun entity => ih.bind fun entities =>
        namesNoFile_ok (entity :: entities)

end Entity

namespace SyntaxTree

theorem namesNoFile_collectType (tree : SyntaxTree) : NamesNoFile (tree.collectType context) := by
  simp only [collectType]
  split
  · exact (Entity.namesNoFile_ofDeclaration _).map _
  · exact namesNoFile_ok _

mutual

theorem namesNoFile_collect (tree : SyntaxTree) : NamesNoFile (tree.collect context) := by
  cases tree with
  | node kind named start stop field children =>
      simp only [collect]
      split
      · exact namesNoFile_ok _
      · split
        · exact namesNoFile_collectType _
        · exact namesNoFile_collectAmong children

theorem namesNoFile_collectAmong (trees : List SyntaxTree) :
    NamesNoFile (collectAmong context trees) := by
  cases trees with
  | nil => exact namesNoFile_ok _
  | cons tree rest =>
      rw [collectAmong]
      split
      · split
        · next failure herror => exact namesNoFile_error (namesNoFile_collect tree failure herror)
        · exact (namesNoFile_collectAmong rest).map _
      · exact namesNoFile_collectAmong rest

end

end SyntaxTree

/-- No file fails with a failure that names a file already. -/
def Work.NamesNoFile (work : Work) : Prop :=
  ∀ path, Understudy.NamesNoFile (work path)

namespace GenerationSettings

variable {settings : GenerationSettings} {disk : Disk} {grammar : Grammar} {index : Index}
  {processed : Bool}

theorem namesNoFile_readSource (path : Path) : NamesNoFile (readSource disk path) := by
  unfold readSource
  cases Workspace.readText disk path with
  | error fault => exact namesNoFile_error rfl
  | ok source => exact namesNoFile_ok source

theorem namesNoFile_treeFile : (settings.treeFile disk grammar processed).NamesNoFile := by
  intro path
  exact (namesNoFile_readSource path).bind fun source =>
    (SyntaxTree.namesNoFile_collect (grammar source)).map _

/-- An index may fail in its own way, which is then the failure of the file. -/
theorem namesNoFile_indexedFile (hindex : ∀ path source, NamesNoFile (index path source)) :
    (settings.indexedFile disk index).NamesNoFile := by
  intro path
  refine (namesNoFile_readSource path).bind fun source => ?_
  unfold indexedResult
  split
  · next failure herror => exact namesNoFile_error (hindex path source failure herror)
  · exact (Entity.namesNoFile_allOf _).map _

theorem namesNoFile_index (path : Path) (source : String) :
    NamesNoFile (grammar.index path source) :=
  namesNoFile_ok _

end GenerationSettings

namespace Pool

variable {work : Work} {initial : Collection} {limit : Nat} {paths : List Path} {trace : Trace}
  {pool : Pool Collection}

/-- What a dispatch that returned tells of its files: the imports of a sequential run, or the
failure of a started file under the name of that file. -/
def ReportsFiles (work : Work) (paths : List Path) (initial : Collection) (trace : Trace)
    (pool : Pool Collection) : Prop :=
  (pool.finish.failure = none →
      pool.finish.sink.imports = (Dispatch.sequential work paths initial).sink.imports) ∧
    ∀ failure, pool.finish.failure = some failure →
      ∃ path ∈ trace.started, ∃ cause, work path = .error cause ∧ failure = .within path cause

theorem Reaches.reportsFiles (hrun : Reaches work (start limit paths initial) trace pool)
    (hdistinct : Path.Distinct paths) (howns : work.OwnsImports) (hplain : work.NamesNoFile)
    (hreturned : pool.Returned) : ReportsFiles work paths initial trace pool := by
  refine ⟨fun hnone => hrun.imports_of_success hreturned hnone (howns.agrees hdistinct), ?_⟩
  intro failure hsome
  obtain ⟨path, hmem, cause, hwork, heq⟩ := hrun.of_failure_eq hsome
  refine ⟨path, hmem, cause, hwork, ?_⟩
  simpa [hplain path cause hwork] using heq

/-- **Passes over the program's files.** However driver and workers interleave, a pass over
distinct files through their syntax trees, or through the index that a grammar makes, reports its
files. -/
theorem reportsFiles_of_pass {settings : GenerationSettings} {disk : Disk} {grammar : Grammar}
    (hdistinct : Path.Distinct paths)
    (hwork : (∃ processed, work = settings.treeFile disk grammar processed) ∨
      work = settings.indexedFile disk grammar.index)
    (hrun : Reaches work (start limit paths initial) trace pool) (hreturned : pool.Returned) :
    ReportsFiles work paths initial trace pool := by
  rcases hwork with ⟨processed, rfl⟩ | rfl
  · exact hrun.reportsFiles hdistinct GenerationSettings.ownsImports_treeFile
      GenerationSettings.namesNoFile_treeFile hreturned
  · exact hrun.reportsFiles hdistinct GenerationSettings.ownsImports_indexedFile
      (GenerationSettings.namesNoFile_indexedFile GenerationSettings.namesNoFile_index) hreturned

end Pool

end Understudy
