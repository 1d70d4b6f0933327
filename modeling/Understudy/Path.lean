import Understudy.Text.Split

/-!
File paths: the text as it was written, and the components that it names.

Two spellings are the same path when they have the same components: repeated slashes, a slash at
the end and a `.` other than the first do not count, while a leading `.` and every `..` do.
-/

namespace Understudy

/-- One step of a path. -/
inductive Component where
  | root
  | current
  | parent
  | name (text : String)
deriving DecidableEq, Repr

namespace Component

def rank : Component → Nat
  | .root => 0
  | .current => 1
  | .parent => 2
  | .name _ => 3

/-- The root comes first, then `.`, then `..`, then names in the order of their characters. -/
def compare : Component → Component → Ordering
  | .name left, .name right => Ord.compare left right
  | left, right => Ord.compare left.rank right.rank

end Component

structure Path where
  text : String
deriving DecidableEq, Repr, Inhabited

namespace Path

open Text

def isAbsolute (path : Path) : Bool :=
  "/".toList.isPrefixOf path.text.toList

def endsInSlash (path : Path) : Bool :=
  "/".toList.isSuffixOf path.text.toList

def withoutEndSlashes (path : Path) : Path :=
  ⟨String.ofList (path.text.toList.reverse.dropWhile (· == '/')).reverse⟩

def segments (path : Path) : List String :=
  (splitWhere (· == '/') path.text.toList).map String.ofList

/-- The component that a segment after the first one stands for. -/
def laterComponent? (segment : String) : Option Component :=
  if segment == "" || segment == "." then none
  else if segment == ".." then some .parent
  else some (.name segment)

/-- The component that the first segment stands for: none is the root of an absolute path. -/
def firstComponent? (path : Path) (segment : String) : Option Component :=
  if segment == "" then (if path.isAbsolute then some .root else none)
  else if segment == "." then some .current
  else laterComponent? segment

def components (path : Path) : List Component :=
  match path.segments with
  | [] => []
  | first :: rest => (path.firstComponent? first).toList ++ rest.filterMap laterComponent?

/-- Whether two spellings name the same path. -/
def same (left right : Path) : Bool :=
  left.components == right.components

def compareComponents : List Component → List Component → Ordering
  | [], [] => .eq
  | [], _ :: _ => .lt
  | _ :: _, [] => .gt
  | left :: lefts, right :: rights =>
      match left.compare right with
      | .eq => compareComponents lefts rights
      | order => order

def compare (left right : Path) : Ordering :=
  compareComponents left.components right.components

/-- The path of something below a directory. An absolute path replaces the directory. -/
def join (directory entry : Path) : Path :=
  if entry.isAbsolute then entry
  else if directory.text == "" || directory.endsInSlash then
    ⟨directory.text ++ entry.text⟩
  else
    ⟨directory.text ++ "/" ++ entry.text⟩

/-- The beginnings of a list of segments that end with a component, longest first, joined again
by slashes. -/
def stems (path : Path) : List (List String) :=
  let first := path.segments.take 1
  (path.segments.drop 1).foldl
    (fun (done, stems) segment =>
      let extended := done ++ [segment]
      (extended, if (laterComponent? segment).isSome then extended :: stems else stems))
    (first, if first == [""] then [] else [first])
  |>.2

/-- The enclosing directories from the nearest outwards. They end with the root of an absolute
path and with the empty path of a relative one. -/
def parents (path : Path) : List Path :=
  match path.stems with
  | [] => []
  | _ :: outer =>
      outer.map (fun stem => ⟨"/".intercalate stem⟩) ++
        [⟨if path.isAbsolute then "/" else ""⟩]

def parent? (path : Path) : Option Path :=
  path.parents.head?

def fileName? (path : Path) : Option String :=
  match path.components.getLast? with
  | some (.name text) => some text
  | _ => none

/-- What follows the last dot of the file name; a dot at its very beginning does not count. -/
def extension? (path : Path) : Option String := do
  let name ← path.fileName?
  match (splitWhere (· == '.') name.toList).reverse with
  | last :: before :: others =>
      if before.isEmpty && others.isEmpty then none else some (String.ofList last)
  | _ => none

end Path

end Understudy
