import Understudy.Dispatch
import Understudy.FileTree
import Understudy.Import
import Understudy.SyntaxTree.Collected

/-!
From files to a collection of entities and imports.

Source files are read through their whole syntax tree. Files of generated mocks are read through
an index of their top-level declarations; their entities are marked as processed, so that their
members are written out again as they stand.
-/

namespace Understudy

abbrev Grammar := String → SyntaxTree

/-- The top-level declarations of a file with a given path and text. -/
abbrev Index := Path → String → Except Failure (List Declaration)

def Grammar.index (grammar : Grammar) : Index := fun _ source =>
  .ok ((grammar source).topLevel source.toList)

structure GenerationSettings where
  limit : Option Nat := none
  marker : String := "@mockable"
  policy : SignaturePolicy := {}
deriving DecidableEq, Repr

namespace GenerationSettings

def context (settings : GenerationSettings) (path : Path) (source : String) (processed : Bool) :
    SourceContext :=
  { path, source, processed, marker := settings.marker, policy := settings.policy }

def readSource (disk : Disk) (path : Path) : Except Failure String :=
  (Workspace.readText disk path).mapError Failure.file

/-- The offset of the first declaration that is no import, or the end of the text. -/
def firstDeclaration (source : String) (declarations : List Declaration) : Nat :=
  let offsets := (declarations.filter fun declaration =>
    declaration.kind != .importStatement).map Declaration.offset
  offsets.min?.getD (Text.byteLength source.toList)

/-- What a text contributes that is read through its index. -/
def indexedResult (settings : GenerationSettings) (index : Index) (path : Path)
    (source : String) : Except Failure FileResult :=
  match index path source with
  | .error failure => .error failure
  | .ok declarations =>
      let types := declarations.filter fun declaration => declaration.kind.isType
      (Entity.allOf (settings.context path source true) types).map fun entities =>
        { entities
          imports :=
            .ofList [(path, Import.before source (firstDeclaration source declarations))] }

/-- What a text contributes that is read through its syntax tree. -/
def treeResult (settings : GenerationSettings) (grammar : Grammar) (processed : Bool)
    (path : Path) (source : String) : Except Failure FileResult :=
  ((grammar source).collect (settings.context path source processed)).map fun found =>
    { entities := found.entities, imports := .ofList [(path, found.imports)] }

def indexedFile (settings : GenerationSettings) (disk : Disk) (index : Index) : Work :=
  fun path => (readSource disk path).bind (settings.indexedResult index path)

def treeFile (settings : GenerationSettings) (disk : Disk) (grammar : Grammar)
    (processed : Bool) : Work :=
  fun path => (readSource disk path).bind (settings.treeResult grammar processed path)

variable {σ : Type} [Sink σ]

def readIndexed (settings : GenerationSettings) (disk : Disk) (index : Index)
    (paths : List Path) (sink : σ) : RunEnd σ :=
  Dispatch.run settings.limit (settings.indexedFile disk index) paths sink

def readTrees (settings : GenerationSettings) (disk : Disk) (grammar : Grammar)
    (processed : Bool) (paths : List Path) (sink : σ) : RunEnd σ :=
  Dispatch.run settings.limit (settings.treeFile disk grammar processed) paths sink

end GenerationSettings

end Understudy
