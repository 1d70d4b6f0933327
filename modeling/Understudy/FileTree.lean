import Understudy.Failure
import Understudy.SourceCache

/-!
Files and directories without links, and what happens to paths in them.

A path is followed segment by segment from the working directory, or from the root when it is
absolute. Every segment, empty or not, needs a directory to start from, so a file followed by a
slash is not found as a file.
-/

namespace Understudy

inductive FileTree where
  | file (bytes : List UInt8)
  | directory (entries : List (String × FileTree))
deriving Repr, Inhabited

namespace FileTree

open Text

def isFile : FileTree → Bool
  | .file _ => true
  | .directory _ => false

def isDirectory : FileTree → Bool
  | .file _ => false
  | .directory _ => true

def lookupEntry (name : String) (entries : List (String × FileTree)) : Option FileTree :=
  entries.lookup name

/-- The entries with one of them replaced, or added at the end. -/
def setEntry (name : String) (tree : FileTree) :
    List (String × FileTree) → List (String × FileTree)
  | [] => [(name, tree)]
  | (held, old) :: rest =>
      if held == name then (held, tree) :: rest else (held, old) :: setEntry name tree rest

/-- What lies at a list of names below a tree. -/
def at? (tree : FileTree) : List String → Option FileTree
  | [] => some tree
  | name :: rest =>
      match tree with
      | .file _ => none
      | .directory entries =>
          match lookupEntry name entries with
          | some below => below.at? rest
          | none => none

/-- The tree with something put at a list of names, making the directories on the way. -/
def put (tree content : FileTree) : List String → FileTree
  | [] => content
  | name :: rest =>
      let entries :=
        match tree with
        | .file _ => []
        | .directory entries => entries
      let below := (lookupEntry name entries).getD (.directory [])
      .directory (setEntry name (below.put content rest) entries)

/-- The tree without what lies at a list of names. -/
def remove (tree : FileTree) : List String → FileTree
  | [] => tree
  | name :: rest =>
      match tree with
      | .file bytes => .file bytes
      | .directory entries =>
          match lookupEntry name entries, rest with
          | none, _ => .directory entries
          | some _, [] => .directory (entries.filter fun entry => entry.1 != name)
          | some below, rest => .directory (setEntry name (below.remove rest) entries)

end FileTree

/-- A file tree with the names that lead to the working directory. -/
structure Workspace where
  root : FileTree
  directory : List String := []
deriving Repr, Inhabited

namespace Workspace

open Text

def directoryPath (workspace : Workspace) : Path :=
  ⟨"/" ++ "/".intercalate workspace.directory⟩

/-- One segment of a path, followed from the place at `names`. -/
def follow (workspace : Workspace) (names : List String) (segment : String) :
    Except FileFault (List String) :=
  match workspace.root.at? names with
  | none => .error .notFound
  | some (.file _) => .error .notDirectory
  | some (.directory entries) =>
      if segment == "" || segment == "." then .ok names
      else if segment == ".." then .ok names.dropLast
      else if (FileTree.lookupEntry segment entries).isSome then .ok (names ++ [segment])
      else .error .notFound

def followAll (workspace : Workspace) (names : List String) (segments : List String) :
    Except FileFault (List String) :=
  segments.foldlM workspace.follow names

def startOf (workspace : Workspace) (path : Path) : List String :=
  if path.isAbsolute then [] else workspace.directory

/-- The names that lead from the root to where a path leads. -/
def locate (workspace : Workspace) (path : Path) : Except FileFault (List String) :=
  if path.text == "" then .error .notFound
  else workspace.followAll (workspace.startOf path) path.segments

def lookup (workspace : Workspace) (path : Path) : Except FileFault FileTree :=
  match workspace.locate path with
  | .error fault => .error fault
  | .ok names =>
      match workspace.root.at? names with
      | some tree => .ok tree
      | none => .error .notFound

def pathExists (workspace : Workspace) (path : Path) : Bool :=
  (workspace.lookup path).toBool

def isFile (workspace : Workspace) (path : Path) : Bool :=
  match workspace.lookup path with
  | .ok tree => tree.isFile
  | .error _ => false

def isDirectory (workspace : Workspace) (path : Path) : Bool :=
  match workspace.lookup path with
  | .ok tree => tree.isDirectory
  | .error _ => false

/-- The contents of every file; a directory can be opened but not read. -/
def disk (workspace : Workspace) : Disk := fun path =>
  match workspace.lookup path with
  | .ok (.file bytes) => .ok bytes
  | .ok (.directory _) => .error .isDirectory
  | .error fault => .error fault

/-- Where a path would make a new entry: the names of its directory and the name of the entry,
whether or not slashes follow it. A path of slashes alone or one that ends in dots makes none. -/
def placeOf (workspace : Workspace) (path : Path) :
    Except FileFault (List String × Option String) :=
  if path.text == "" then .error .notFound
  else
    let segments := path.withoutEndSlashes.segments
    match workspace.followAll (workspace.startOf path) segments.dropLast with
    | .error fault => .error fault
    | .ok names =>
        match workspace.root.at? names, segments.getLast? with
        | some (.file _), _ => .error .notDirectory
        | _, some last =>
            if last == "" || last == "." || last == ".." then .ok (names, none)
            else .ok (names, some last)
        | _, none => .error .notFound

def putAt (workspace : Workspace) (names : List String) (content : FileTree) : Workspace :=
  { workspace with root := workspace.root.put content names }

/-- Writes a file, replacing its contents if it exists. A path that ends in a slash can only be
that of a directory. -/
def write (workspace : Workspace) (path : Path) (bytes : List UInt8) :
    Except FileFault Workspace :=
  match workspace.placeOf path with
  | .error fault => .error fault
  | .ok (_, none) => .error .isDirectory
  | .ok (names, some name) =>
      if path.endsInSlash then .error .isDirectory
      else
        match workspace.root.at? (names ++ [name]) with
        | some (.directory _) => .error .isDirectory
        | _ => .ok (workspace.putAt (names ++ [name]) (.file bytes))

def makeDirectory (workspace : Workspace) (path : Path) : Except FileFault Workspace :=
  match workspace.placeOf path with
  | .error fault => .error fault
  | .ok (_, none) => .error .exists
  | .ok (names, some name) =>
      if (workspace.root.at? (names ++ [name])).isSome then .error .exists
      else .ok (workspace.putAt (names ++ [name]) (.directory []))

/-- Makes a directory whose parents, listed from the nearest outwards, are made first where they
are missing. -/
def makeDirectories (workspace : Workspace) (path : Path) :
    List Path → Except FileFault Workspace
  | [] => if path.text == "" then .ok workspace else attempt workspace path
  | parent :: outer =>
      if path.text == "" then .ok workspace
      else
        match workspace.makeDirectory path with
        | .ok made => .ok made
        | .error .notFound =>
            match makeDirectories workspace parent outer with
            | .ok made => attempt made path
            | .error fault => .error fault
        | .error fault => if workspace.isDirectory path then .ok workspace else .error fault
where
  attempt (workspace : Workspace) (path : Path) : Except FileFault Workspace :=
    match workspace.makeDirectory path with
    | .ok made => .ok made
    | .error fault => if workspace.isDirectory path then .ok workspace else .error fault

def makeAllDirectories (workspace : Workspace) (path : Path) : Except FileFault Workspace :=
  workspace.makeDirectories path path.parents

def readText (disk : Disk) (path : Path) : Except FileFault String :=
  match disk path with
  | .error fault => .error fault
  | .ok bytes =>
      match Utf8.decode bytes with
      | .ok text => .ok (String.ofList text)
      | .error _ => .error .notUtf8

end Workspace

namespace FileTree

mutual

/-- The files of a tree with the names that lead to them. -/
def files (names : List String) : FileTree → List (List String × List UInt8)
  | .file bytes => [(names, bytes)]
  | .directory entries => filesAmong names entries

def filesAmong (names : List String) :
    List (String × FileTree) → List (List String × List UInt8)
  | [] => []
  | (name, tree) :: rest => files (names ++ [name]) tree ++ filesAmong names rest

end

/-- The files of a later tree that an earlier one does not hold with the same contents. -/
def changedFiles (earlier later : FileTree) : List (List String × List UInt8) :=
  (later.files []).filter fun (names, bytes) =>
    match earlier.at? names with
    | some (.file old) => old != bytes
    | _ => true

end FileTree

end Understudy
