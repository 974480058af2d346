import TrustGate.Store.Folder

/-!
# Paths and disks

A path is a list of names from the root on. A disk is what stands at paths; of
several entries for one path the first counts, and a path below which something
stands is a folder.

A path that a user writes is walked step by step. Every step but the last has to
lead to a folder, also where the next step leads back out of it.
-/

namespace TrustGate

abbrev Path :=
  List String

namespace Path

/-- The steps of a written path. Empty steps mean nothing. -/
def steps (text : String) : List String :=
  (text.splitOn "/").filter (· ≠ "")

/-- The steps from the root that a written path means in a current folder. -/
def absoluteSteps (current : Path) (text : String) : List String :=
  if text.startsWith "/" then steps text else current ++ steps text

/-- The paths on a walk along some steps, if all of them lead somewhere. -/
def visited (path : Path) : List String → List Path
  | [] => [path]
  | "." :: steps => visited path steps
  | ".." :: steps => visited path.dropLast steps
  | name :: steps => path :: visited (path ++ [name]) steps

def text (path : Path) : String :=
  "/" ++ "/".intercalate path

end Path

structure Disk where
  entries : List (Path × Entry) := []
deriving Repr, DecidableEq

namespace Disk

def holdsBelow (disk : Disk) (path : Path) : Bool :=
  disk.entries.any fun (other, entry) =>
    entry ≠ .missing && path.isPrefixOf other && path.length < other.length

def entry (disk : Disk) (path : Path) : Entry :=
  match disk.entries.lookup path with
  | some .missing | none => if path = [] ∨ disk.holdsBelow path then .folder else .missing
  | some entry => entry

def put (disk : Disk) (path : Path) (entry : Entry) : Disk :=
  ⟨(path, entry) :: disk.entries.filter (·.1 ≠ path)⟩

/-- Walks some steps from a folder. The last step may lead nowhere. -/
def walk? (disk : Disk) (path : Path) : List String → Option Path
  | [] => some path
  | "." :: steps => disk.walk? path steps
  | ".." :: steps => disk.walk? path.dropLast steps
  | name :: steps =>
      let next := path ++ [name]
      if steps = [] ∨ disk.entry next = .folder then disk.walk? next steps else none

def entryAt (disk : Disk) (steps : List String) : Entry :=
  match disk.walk? [] steps with
  | none => .missing
  | some path => disk.entry path

/-- Walks some steps from a folder, and makes the folders that are missing. The result is where
that leads, unless a file is in the way. -/
def makeFolders? (disk : Disk) (path : Path) : List String → Option (Path × Disk)
  | [] => some (path, disk)
  | "." :: steps => disk.makeFolders? path steps
  | ".." :: steps => disk.makeFolders? path.dropLast steps
  | name :: steps =>
      let next := path ++ [name]
      match disk.entry next with
      | .folder => disk.makeFolders? next steps
      | .missing => (disk.put next .folder).makeFolders? next steps
      | .file _ => none

end Disk

end TrustGate
