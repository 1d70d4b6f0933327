import Understudy.Command
import Understudy.Config

/-!
The paths that a command can reach, so that they can be fetched before it runs.
-/

namespace Understudy

namespace Command

/-- The paths at and below which everything may be read. -/
def readsBelow : Command → List Path
  | .generate arguments => arguments.sources ++ arguments.mockfiles
  | .analyze path _ => [path]

/-- The other paths: the configuration, or every place where it is looked for, and the output. -/
def touches (directory : Path) : Command → List Path
  | .generate arguments =>
      (match arguments.config with
        | some path => [path]
        | none => Config.candidates directory) ++ arguments.output.toList
  | .analyze _ _ => []

end Command

namespace Workspace

/-- The place after one more segment, whatever lies there. -/
def stepTo (names : List String) (segment : String) : List String :=
  if segment == "" || segment == "." then names
  else if segment == ".." then names.dropLast
  else names ++ [segment]

/-- Every place that a path passes through, itself last. -/
def passes (workspace : Workspace) (path : Path) : List (List String) :=
  (path.segments.foldl
    (fun (places, names) segment =>
      let next := stepTo names segment
      (places ++ [next], next))
    ([], workspace.startOf path)).1

/-- Every place on the way from the root to the working directory. -/
def ancestry (workspace : Workspace) : List (List String) :=
  (List.range (workspace.directory.length + 1)).map workspace.directory.take

end Workspace

end Understudy
