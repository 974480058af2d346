import TrustGate.Attempt
import TrustGate.CommandLine.Reader
import TrustGate.Disk
import TrustGate.Terminal.Input

/-!
# The program

One run of the program: from the command line, the environment and the disk to
an exit status, what is printed, and the disk as it is left.

The steps come in a fixed order, and the first that fails ends the run: the
command line is read, the settings are loaded, the log is opened, the store is
opened, and the command is carried out. So the disk is left alone by a command
line that is refused and by settings that cannot be loaded, and once the log is
open it stays, whatever the rest comes to.

A connection attempt may need its user. Then the run stops half-way, with a
screen to which things happen, and is finished when the screen is left.
-/

namespace TrustGate

structure Start where
  words : List String
  environment : List (String × String)
  /-- The folder that written paths start from. -/
  currentFolder : Path
  /-- The home folder of the account, where the environment does not name one. -/
  accountHome : String
deriving Repr, DecidableEq

inductive ExitStatus
  | success
  | failure
  | usage
deriving Repr, DecidableEq

def ExitStatus.code : ExitStatus → UInt32
  | success => 0
  | failure => 1
  | usage => 2

structure Report where
  status : ExitStatus
  output : String := ""
  errors : List String := []
  disk : Disk
  toolCalls : List (List String) := []
deriving Repr, DecidableEq

namespace Program

def usage : String :=
  "Usage: " ++ Product.name ++ " [--config-dir DIR] [--dry-run] [COMMAND]\n\n" ++
  "Commands:\n" ++
  "  list                            Show saved networks and their trust state\n" ++
  "  evaluate NETWORK                Tell whether connecting needs approval\n" ++
  "  connect NETWORK --cert FILE [--background]\n" ++
  "                                  Run the approval flow for a network\n" ++
  "  reset NETWORK                   Forget what is trusted about a network\n" ++
  "  add ID SSID [--eap METHOD] [--tofu]\n" ++
  "                                  Save a network\n"

def refuse (disk : Disk) : CommandLine.Refusal → Report
  | .displayHelp => { status := .success, output := usage, disk }
  | .displayVersion =>
      { status := .success, output := Product.name ++ " " ++ Product.version ++ "\n", disk }
  | _ => { status := .usage, errors := [usage], disk }

def fail (disk : Disk) (message : String) : Report :=
  { status := .failure, errors := ["Error: " ++ message], disk }

/-- The folder of the program as it was written: the one that was asked for, or the default. -/
def folderText (start : Start) (folder? : Option String) : String :=
  match folder? with
  | some folder => folder
  | none =>
      Settings.defaultFolder
        (Settings.homeFolder (start.environment.lookup "HOME") start.accountHome)
        (start.environment.lookup "XDG_CONFIG_HOME")

/-- Opens the log below the folder of the program, whose steps are given, and makes what is missing
on the way. The result is the folder, unless something is in the way. -/
def openLog? (disk : Disk) (steps : List String) : Option (Path × Disk) := do
  let (logFolder, disk) ← disk.makeFolders? [] (steps ++ [Product.logFolder])
  let logFile := logFolder ++ [Product.logFile]
  match disk.entry logFile with
  | .missing => some (logFolder.dropLast, disk.put logFile (.file []))
  | .file _ => some (logFolder.dropLast, disk)
  | .folder => none

/-- What the store of a folder keeps on disk. -/
def storeFolder (disk : Disk) (folder : Path) : Folder where
  profiles := disk.entry (folder ++ [Store.fileName])
  temporary := disk.entry (folder ++ [Store.temporaryName])

/-- The disk after the store of a folder has been changed. -/
def putStoreFolder (disk : Disk) (path : Path) (folder : Folder) : Disk :=
  (disk.put (path ++ [Store.fileName]) folder.profiles).put (path ++ [Store.temporaryName])
    folder.temporary

structure Connecting where
  attempt : Attempt
  folder : Path
  disk : Disk

/-- The report on an attempt that is left now. -/
def Connecting.report (connecting : Connecting) : Report where
  status := .success
  output := connecting.attempt.ending.text ++ "\n"
  errors := connecting.attempt.warnings
  disk := putStoreFolder connecting.disk connecting.folder
    connecting.attempt.session.surroundings.folder
  toolCalls := connecting.attempt.session.surroundings.toolCalls

/-- How far a run gets without its user. -/
inductive Progress
  | ended (report : Report)
  | connecting (connecting : Connecting)

/-- The report on a command, except for a connection attempt. -/
def finish (disk : Disk) (folder : Path) (result : CommandResult) : Report :=
  let disk := putStoreFolder disk folder result.folder
  match result.answer with
  | .ok output => { status := .success, output, disk }
  | .error error => fail disk error.message

def connect (start : Start) (standIn : Supplicant.StandIn) (settings : Settings) (disk : Disk)
    (folder : Path) (dryRun : Bool) (network certificatePath : String) (background : Bool) :
    Progress :=
  let certificateFile := disk.entryAt (Path.absoluteSteps start.currentFolder certificatePath)
  match Attempt.start settings (dryRun || settings.dryRun) standIn (storeFolder disk folder)
      { network, certificatePath, certificateFile, background } with
  | .error error => .ended (fail disk error.message)
  | .ok attempt => .connecting { attempt, folder, disk }

def carryOut (start : Start) (standIn : Supplicant.StandIn) (settings : Settings) (disk : Disk)
    (folder : Path) (store : Store) (invocation : CommandLine.Invocation) : Progress :=
  let files := storeFolder disk folder
  match invocation.command?.getD .list with
  | .list => .ended (finish disk folder (Commands.list store files))
  | .evaluate network =>
      .ended (finish disk folder (Commands.evaluate store files settings.tofuSupported network))
  | .reset network => .ended (finish disk folder (Commands.reset store files network))
  | .add id ssid eapMethod? tofu =>
      .ended (finish disk folder (Commands.add store files id ssid eapMethod? tofu))
  | .connect network certificatePath background =>
      connect start standIn settings disk folder invocation.dryRun network certificatePath
        background

/-- Begins a run whose command line has been read. -/
def beginInvocation (start : Start) (standIn : Supplicant.StandIn) (disk : Disk)
    (invocation : CommandLine.Invocation) : Progress :=
  let steps := Path.absoluteSteps start.currentFolder (folderText start invocation.folder?)
  match Settings.ofEntry (disk.entryAt (steps ++ [Settings.fileName])) with
  | .error error => .ended (fail disk error.message)
  | .ok settings =>
      match openLog? disk steps with
      | none => .ended (fail disk "failed to open the log")
      | some (folder, disk) =>
          match Store.ofFolder (storeFolder disk folder) with
          | .error _ => .ended (fail disk "failed to open the network profile store")
          | .ok store => carryOut start standIn settings disk folder store invocation

/-- Begins a run, and goes as far as it gets without its user. -/
def begin (start : Start) (standIn : Supplicant.StandIn) (disk : Disk) : Progress :=
  match CommandLine.read start.words (start.environment.lookup Product.folderVariable) with
  | .error refusal => .ended (refuse disk refusal)
  | .ok invocation => beginInvocation start standIn disk invocation

/-- What happens to a screen whose user types some pieces of input. A tick follows each. -/
def typing (pieces : List String) : List Session.Happening :=
  pieces.flatMap fun piece => (Terminal.keyPresses piece).map .press ++ [.tick]

/-- A run after its user has typed some pieces of input. -/
def Connecting.typed (connecting : Connecting) (pieces : List String) : Connecting :=
  { connecting with attempt := connecting.attempt.follow (typing pieces) }

/-- A whole run, in which the user types some pieces of input once asked. -/
def run (start : Start) (standIn : Supplicant.StandIn) (disk : Disk) (pieces : List String) :
    Report :=
  match begin start standIn disk with
  | .ended report => report
  | .connecting connecting => (connecting.typed pieces).report

def paths (start : Start) : List Path :=
  match CommandLine.read start.words (start.environment.lookup Product.folderVariable) with
  | .error _ => []
  | .ok invocation =>
      let steps := Path.absoluteSteps start.currentFolder (folderText start invocation.folder?)
      let below : List (List String) := [[Settings.fileName], [Store.fileName],
        [Store.temporaryName], [Product.logFolder, Product.logFile]]
      let certificate : List Path := match invocation.command? with
        | some (.connect _ path _) =>
            Path.visited [] (Path.absoluteSteps start.currentFolder path)
        | _ => []
      below.flatMap (fun more => Path.visited [] (steps ++ more)) ++ certificate

end Program

end TrustGate
