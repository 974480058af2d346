import TrustGate.Program
import TrustGate.Screen.Picture

/-!
# The outer layer

Reads what a run looks at, lets the program decide, and writes what has changed.
While a prompt is on the screen, its picture is printed for every piece of
input that is read.

No other program is started from here, so the control tool of the supplicant
counts as not started.
-/

namespace TrustGate.Main

/-- What stands at a path. Where there is something that cannot be read as a file, it is taken for a
folder. -/
def readEntry (path : Path) : IO Entry := do
  try
    return .file (← IO.FS.readBinFile path.text).toList
  catch
    | .noFileOrDirectory .. => return .missing
    | _ => return .folder

def readDisk (paths : List Path) : IO Disk := do
  return ⟨← paths.mapM fun path => return (path, ← readEntry path)⟩

/-- Writes a file by way of a temporary one, so that there is never half of it. -/
def replaceFile (path : Path) (content : Bytes) : IO Unit := do
  let temporary := path.text ++ ".tmp"
  IO.FS.writeBinFile temporary ⟨content.toArray⟩
  IO.FS.rename temporary path.text

def writeEntry (before after : Disk) (path : Path) : IO Unit := do
  if before.entry path = after.entry path then return
  match after.entry path with
  | .folder => IO.FS.createDirAll path.text
  | .file content => replaceFile path content
  | .missing => IO.FS.removeFile path.text

def readStart (words : List String) : IO Start := do
  let names := [Product.folderVariable, "HOME", "XDG_CONFIG_HOME"]
  let environment ← names.filterMapM fun name => return (← IO.getEnv name).map (name, ·)
  let currentFolder := Path.steps (← IO.currentDir).toString
  return { words, environment, currentFolder, accountHome := "/" }

def draw (session : Session) : IO Unit := do
  let prompt? := session.surroundings.slot.current?.map (·.2)
  for row in (session.screen.picture prompt? 100 30).text do
    IO.println row

/-- Lets the user type until the screen is left. The end of a line counts as the enter key. -/
partial def converse (connecting : Program.Connecting) : IO Program.Connecting := do
  if connecting.attempt.hasEnded then return connecting
  draw connecting.attempt.session
  let bytes ← (← IO.getStdin).read 256
  if bytes.isEmpty then return connecting
  let piece := (Utf8.decodeLossy bytes.toList).map fun char => if char = '\n' then '\r' else char
  converse (connecting.typed [String.ofList piece])

/-- The report on a run, after its user has been asked. -/
def reportOf : Program.Progress → IO Report
  | .ended report => return report
  | .connecting connecting => return (← converse connecting).report

def run (words : List String) : IO UInt32 := do
  let start ← readStart words
  let paths := (Program.paths start).eraseDups
  let before ← readDisk paths
  let report ← reportOf (Program.begin start { missing := true } before)
  paths.forM (writeEntry before report.disk)
  report.errors.forM fun line => IO.eprintln line
  IO.print report.output
  return report.status.code

end TrustGate.Main

def main (words : List String) : IO UInt32 :=
  TrustGate.Main.run words
