import Understudy.Catalog
import Understudy.Mock.Class
import Understudy.OutputOptions

/-!
The output file of a run: the header, the import lines and one class for each target of the
catalog, in the order of the targets' names, with a blank line between sections.
-/

namespace Understudy.Output

def targetText (disk : Disk) (catalog : Catalog) (options : OutputOptions) (target : Entity)
    (cache : SourceCache) : Except Failure String × SourceCache :=
  Mock.classText disk catalog.knownLiterals target (catalog.flatten target) options.isFinal cache

def targetTexts (disk : Disk) (catalog : Catalog) (options : OutputOptions) :
    List Entity → SourceCache → Except Failure (List String) × SourceCache
  | [], cache => (.ok [], cache)
  | target :: rest, cache =>
      match targetText disk catalog options target cache with
      | (.error failure, cache) => (.error failure, cache)
      | (.ok text, cache) =>
          let (texts, cache) := targetTexts disk catalog options rest cache
          (texts.map (text :: ·), cache)

def importSection (catalog : Catalog) (imports : ImportMap) (options : OutputOptions) :
    List String :=
  match options.importLines (catalog.targets.flatMap catalog.contributingFiles) imports with
  | [] => []
  | lines => [Layout.joinLines lines]

def assemble (sections : List String) : String :=
  "\n\n".intercalate sections ++ "\n"

def render (disk : Disk) (entities : List Entity) (imports : ImportMap) (options : OutputOptions)
    (cache : SourceCache) : Except Failure String × SourceCache :=
  let catalog : Catalog := ⟨entities⟩
  let (texts, cache) := targetTexts disk catalog options catalog.targets cache
  (texts.map fun texts =>
      assemble (options.headerSection ++ importSection catalog imports options ++ texts),
    cache)

end Understudy.Output
