import Understudy.FileTree

/-!
The source files that a list of arguments names.

A regular file counts as it is. A directory stands for the Swift files in it at any depth, less
what lies in directories of build products and dependencies. The result is sorted by components,
and of several spellings of one path the first stays.
-/

namespace Understudy.SourceFiles

def skippedNames : List String :=
  [".build", ".git", "DerivedData", "Pods", "Carthage"]

def isSwift (path : Path) : Bool :=
  path.extension? == some "swift"

mutual

def below (path : Path) : FileTree → List Path
  | .file _ => if isSwift path then [path] else []
  | .directory entries => belowAmong path entries

/-- The Swift files in the entries of a directory, without those to skip. -/
def belowAmong (path : Path) : List (String × FileTree) → List Path
  | [] => []
  | (name, tree) :: rest =>
      (if skippedNames.contains name then [] else below (path.join ⟨name⟩) tree) ++
        belowAmong path rest

end

def ofArgument (workspace : Workspace) (path : Path) : List Path :=
  match workspace.lookup path with
  | .ok (.file _) => [path]
  | .ok tree => below path tree
  | .error _ => []

/-- Keeps the first of neighbours that are the same path. -/
def dropRepeats : List Path → List Path
  | [] => []
  | path :: rest =>
      match dropRepeats rest with
      | [] => [path]
      | next :: others => if path.same next then path :: others else path :: next :: others

def collect (workspace : Workspace) (arguments : List Path) : List Path :=
  dropRepeats
    ((arguments.flatMap (ofArgument workspace)).mergeSort fun left right =>
      (left.compare right).isLE)

end Understudy.SourceFiles
