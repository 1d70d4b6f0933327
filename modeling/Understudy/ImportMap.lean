import Understudy.Path

/-!
The import statements of each file, in the order of the paths. A path has one entry whatever its
spelling: statements that are inserted later replace earlier ones, and the spelling that the map
holds stays.
-/

namespace Understudy

structure ImportMap where
  entries : List (Path × List String) := []
deriving DecidableEq, Repr, Inhabited

namespace ImportMap

def insertSorted (path : Path) (statements : List String) :
    List (Path × List String) → List (Path × List String)
  | [] => [(path, statements)]
  | (held, old) :: rest =>
      match path.compare held with
      | .lt => (path, statements) :: (held, old) :: rest
      | .eq => (held, statements) :: rest
      | .gt => (held, old) :: insertSorted path statements rest

def insert (map : ImportMap) (path : Path) (statements : List String) : ImportMap :=
  ⟨insertSorted path statements map.entries⟩

def extend (map later : ImportMap) : ImportMap :=
  later.entries.foldl (fun map (path, statements) => map.insert path statements) map

/-- The statements of a file; none for a file without an entry. -/
def statements (map : ImportMap) (path : Path) : List String :=
  match map.entries.find? fun entry => entry.1.same path with
  | some entry => entry.2
  | none => []

/-- The map of a list of entries. Of several entries for one path the last one stands, with its
spelling. -/
def ofList (entries : List (Path × List String)) : ImportMap :=
  entries.foldr (fun (path, statements) map =>
    if map.entries.any fun entry => entry.1.same path then map else map.insert path statements) {}

end ImportMap

end Understudy
