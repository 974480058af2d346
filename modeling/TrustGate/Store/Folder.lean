import TrustGate.Bytes.Utf8

/-!
# The folder of a store

What a store keeps on disk: the file of profiles, and a temporary file beside
it. A save writes the temporary file and renames it over the file of profiles,
so the latter holds either what it held before or all that was to be written.

Saving fails where something stands in its way: a folder in place of either
file, or a fault of the disk at one of its steps.
-/

namespace TrustGate

inductive Entry
  | missing
  | folder
  | file (content : Bytes)
deriving Repr, DecidableEq

/-- The content of a file as text, if it is a file and is UTF-8. -/
def Entry.text? : Entry → Option String
  | .file content => Utf8.decodeString? content
  | _ => none

inductive SaveStep
  | createFolder
  | writeTemporary
  | rename
deriving Repr, DecidableEq

structure Folder where
  profiles : Entry := .missing
  temporary : Entry := .missing
  /-- The step at which the disk fails at present. -/
  fault : Option SaveStep := none
deriving Repr, DecidableEq

namespace Folder

/-- Writes the temporary file, unless a folder or a fault is in the way. -/
def writeTemporary? (folder : Folder) (content : Bytes) : Option Folder :=
  if folder.temporary = .folder ∨ folder.fault = some .createFolder ∨
      folder.fault = some .writeTemporary then none
  else some { folder with temporary := .file content }

/-- Renames the temporary file over the file of profiles, unless a folder or a fault is in the
way. -/
def rename? (folder : Folder) : Option Folder :=
  if folder.profiles = .folder ∨ folder.fault = some .rename then none
  else some { folder with profiles := folder.temporary, temporary := .missing }

/-- Saves a text as the file of profiles, and tells whether that worked. -/
def save (folder : Folder) (text : String) : Folder × Bool :=
  match folder.writeTemporary? (Utf8.encodeString text) with
  | none => (folder, false)
  | some written =>
      match written.rename? with
      | none => (written, false)
      | some renamed => (renamed, true)

end Folder

end TrustGate
