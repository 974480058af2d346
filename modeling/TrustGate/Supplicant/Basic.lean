import TrustGate.Bytes.Utf8
import TrustGate.Exchange
import TrustGate.Profile.Basic
import TrustGate.Text.Blank

/-!
# The supplicant

After a connection is refused the supplicant must not resume the session from
key material that it keeps, or else the next attempt would not be asked about.
Its credentials are reset by a control tool, which is called with lists of
arguments. The tool may report success while its output says otherwise, so the
output is looked at too.
-/

namespace TrustGate

inductive ToolAnswer
  | notStarted
  | ended (success : Bool) (output errors : Bytes)
deriving Repr, DecidableEq

/-- The reply to a list of arguments. -/
abbrev ToolReply (_ : List String) : Type :=
  ToolAnswer

structure Supplicant where
  /-- The interface whose sessions are reset. -/
  interface : String
  /-- Whether the tool is left alone and every call counts as a success. -/
  dryRun : Bool
deriving Repr, DecidableEq

/-- Drops the session of a network, if one is given, and then all credentials of an interface,
whether or not the former worked. -/
def resetCredentials {m : Type → Type} {α β : Type} [Monad m] (invalidate : NetworkId → m α)
    (forget : String → m β) (id? : Option NetworkId) (interface : String) : m Unit := do
  if let some id := id? then
    let _ ← invalidate id
  let _ ← forget interface

namespace Supplicant

def tool : String :=
  "wpa_cli"

inductive Error
  | notStarted
  | commandFailed (arguments : List String) (output : String)
deriving Repr, DecidableEq

/-- The text of an error, up to what the system adds. -/
def Error.message : Error → String
  | .notStarted => "failed to run " ++ tool
  | .commandFailed arguments output =>
      tool ++ " " ++ " ".intercalate arguments ++ " failed: " ++ output

def occursIn (text : List Char) : List Char → Bool
  | [] => text.isEmpty
  | char :: chars => text.isPrefixOf (char :: chars) || occursIn text chars

def printed (bytes : Bytes) : List Char :=
  Text.trim (Utf8.decodeLossy bytes)

/-- Whether an answer of the tool is a success: it ended well, and does not print that the
supplicant failed. -/
def judge (arguments : List String) : ToolAnswer → Except Error Unit
  | .notStarted => .error .notStarted
  | .ended success output errors =>
      let output := printed output
      if success && !occursIn "FAIL".toList output then .ok ()
      else
        let errors := printed errors
        .error (.commandFailed arguments
          (String.ofList (if errors.isEmpty then output else errors)))

/-- Calls the tool, but in a dry run. -/
def issue (supplicant : Supplicant) (arguments : List String) :
    Exchange ToolReply (Except Error Unit) :=
  if supplicant.dryRun then .done (.ok ())
  else .ask arguments fun answer => .done (judge arguments answer)

/-- Calls the tool several times, up to the first failure. -/
def issueAll (supplicant : Supplicant) :
    List (List String) → Exchange ToolReply (Except Error Unit)
  | [] => .done (.ok ())
  | arguments :: rest => do
      match ← supplicant.issue arguments with
      | .error error => return .error error
      | .ok () => supplicant.issueAll rest

def sessionCommands (supplicant : Supplicant) (id : NetworkId) : List (List String) :=
  [["-i", supplicant.interface, "pmksa_flush"],
    ["-i", supplicant.interface, "disable_network", toString id.toNat]]

def forgetCommands (interface : String) : List (List String) :=
  [["-i", interface, "remove_network", "all"]]

def invalidateSession (supplicant : Supplicant) (id : NetworkId) :
    Exchange ToolReply (Except Error Unit) :=
  supplicant.issueAll (supplicant.sessionCommands id)

def forgetAll (supplicant : Supplicant) (interface : String) :
    Exchange ToolReply (Except Error Unit) :=
  supplicant.issueAll (forgetCommands interface)

/-- Drops the session of a network, if one is given, and all credentials of an interface. -/
def reset (supplicant : Supplicant) (id? : Option NetworkId) (interface : String) :
    Exchange ToolReply Unit :=
  resetCredentials supplicant.invalidateSession supplicant.forgetAll id? interface

end Supplicant

end TrustGate
