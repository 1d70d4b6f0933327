import Understudy.Command.Reach
import Understudy.Command.Report
import Understudy.StoredTree

/-!
The program: fetches what a command can reach, runs the command on it, and stores what changed.
-/

namespace Understudy.Main

def pathText (names : List String) : String :=
  "/" ++ "/".intercalate names

/-- Adds what lies at a place, a directory without its entries. -/
def fetch (root : FileTree) (names : List String) : IO FileTree := do
  if (root.at? names).isSome then
    return root
  let path := System.mkFilePath [pathText names]
  if ← path.isDir then
    return root.put (.directory []) names
  if ← path.pathExists then
    return root.put (.file (← IO.FS.readBinFile path).toList) names
  return root

def isWanted (name : String) : Bool :=
  SourceFiles.isSwift ⟨name⟩ || StoredTree.ending.toList.isSuffixOf name.toList

/-- Adds the source files and stored trees below a directory. -/
partial def fetchBelow (root : FileTree) (names : List String) : IO FileTree := do
  let path := System.mkFilePath [pathText names]
  if !(← path.isDir) then
    return root
  let mut root := root
  for found in ← path.readDir do
    let name := found.fileName
    let below := names ++ [name]
    if ← found.path.isDir then
      if !SourceFiles.skippedNames.contains name then
        root ← fetchBelow (← fetch root below) below
    else if isWanted name then
      root ← fetch root below
  return root

/-- A workspace that holds all that a command can reach. -/
def survey (directory : List String) (command : Command) : IO Workspace := do
  let bare : Workspace := { root := .directory [], directory }
  let mut root := bare.root
  for names in bare.ancestry do
    root ← fetch root names
  for path in command.readsBelow ++ command.touches bare.directoryPath do
    for names in bare.passes path do
      root ← fetch root names
  for path in command.readsBelow do
    for names in (bare.passes path).getLast? do
      root ← fetch (← fetchBelow root names) (StoredTree.placeFor names)
  return { bare with root }

def store (names : List String) (bytes : List UInt8) : IO Unit := do
  IO.FS.createDirAll (pathText names.dropLast)
  IO.FS.writeBinFile (pathText names) ⟨bytes.toArray⟩

def execute (command : Command) : IO UInt32 := do
  let here := (← IO.currentDir).toString
  let workspace ← survey ((here.splitOn "/").filter (· != "")) command
  let done := command.run (StoredTree.grammar workspace.root) workspace
  IO.print done.printed
  for (names, bytes) in FileTree.changedFiles workspace.root done.workspace.root do
    store names bytes
  match done.failure with
  | none => return 0
  | some failure =>
      for line in failure.report do
        IO.eprintln line
      return 1

end Understudy.Main

open Understudy in
def main (arguments : List String) : IO UInt32 := do
  match Command.read arguments with
  | .ok command => Main.execute command
  | .error fault =>
      if fault.isRequest then IO.println fault.message else IO.eprintln fault.message
      return fault.exitCode
