import TrustGate.Gate.Basic
import TrustGate.Product
import TrustGate.Toml.Reader

/-!
# Settings

What the user sets in a file beside the store. A missing file means defaults,
and so does a missing key; keys that mean nothing here are left alone.
-/

namespace TrustGate

structure Settings where
  /-- The interface whose sessions are reset. -/
  interface : String := "wlan0"
  tofuSupported : Bool := true
  /-- The page that prompts without a certificate link to. -/
  helpLink : String := "https://en.wikipedia.org/wiki/Extensible_Authentication_Protocol"
  logLevel : String := "info"
  /-- Whether the supplicant is left alone. -/
  dryRun : Bool := false
deriving Repr, DecidableEq

namespace Settings

def fileName : String :=
  "config.toml"

inductive Error
  /-- The file cannot be read as text. -/
  | read
  /-- The text is malformed, or a setting has the wrong type. -/
  | parse
deriving Repr, DecidableEq

def text? (members : Toml.Members) (key default : String) : Option String :=
  match members.lookup key with
  | none => some default
  | some (.string text) => some text
  | some _ => none

def flag? (members : Toml.Members) (key : String) (default : Bool) : Option Bool :=
  match members.lookup key with
  | none => some default
  | some (.boolean value) => some value
  | some _ => none

def ofMembers? (members : Toml.Members) : Option Settings := do
  let default : Settings := {}
  return {
    interface := ← text? members "interface" default.interface
    tofuSupported := ← flag? members "tofu_supported" default.tofuSupported
    helpLink := ← text? members "ca_cert_help_link" default.helpLink
    logLevel := ← text? members "log_level" default.logLevel
    dryRun := ← flag? members "dry_run_bridge" default.dryRun }

/-- The text of an error, up to what the system or the reader adds. -/
def Error.message : Error → String
  | .read => "failed to read " ++ fileName
  | .parse => "invalid config file " ++ fileName

def ofEntry : Entry → Except Error Settings
  | .missing => .ok {}
  | entry =>
      match entry.text? with
      | none => .error .read
      | some text =>
          match Toml.read? text >>= ofMembers? with
          | none => .error .parse
          | some settings => .ok settings

/-- What of the settings concerns the gate. -/
def gate (settings : Settings) : GateSettings where
  tofuSupported := settings.tofuSupported
  interface := settings.interface
  helpLink := settings.helpLink

/-! ## The folder of settings -/

/-- A path below a folder, which may be written with a slash at its end. -/
def joinPath (folder path : String) : String :=
  if path.startsWith "/" || folder.isEmpty then path
  else if folder.endsWith "/" then folder ++ path
  else folder ++ "/" ++ path

/-- The home folder: what the environment says, unless that is empty, and else the one of the
account. -/
def homeFolder (home? : Option String) (account : String) : String :=
  match home? with
  | some home => if home.isEmpty then account else home
  | none => account

/-- The folder that settings are looked for in where none is given: below the folder of the user's
settings, if that is absolute, and else below the home folder. -/
def defaultFolder (home : String) (xdg? : Option String) : String :=
  let base := match xdg? with
    | some xdg => if xdg.startsWith "/" then xdg else joinPath home ".config"
    | none => joinPath home ".config"
  joinPath base Product.name

end Settings

end TrustGate
