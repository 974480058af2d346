import TrustGate.Evaluation
import TrustGate.Listing
import TrustGate.Text.Decimal

/-!
# Commands on saved networks

Showing, evaluating, resetting and adding networks. A user names a network by
its number or by its name; the number counts first, and of several networks
with one name that of the lowest number is meant.

Every command works on an open store and its folder, and returns them as they
are afterwards together with the text for the user.
-/

namespace TrustGate

inductive CommandError
  | unknownNetwork (argument : String)
  | store (error : Store.Error)
  | unreadableCertificate (path : String)
deriving Repr, DecidableEq

/-- The text of an error, up to what the system adds. -/
def CommandError.message : CommandError → String
  | unknownNetwork argument => "unknown network: " ++ argument
  | store error => error.message
  | unreadableCertificate path => "failed to read " ++ path

/-- The number that an argument spells, if it is one of a network. -/
def NetworkId.ofArgument? (argument : String) : Option NetworkId := do
  let number ← Text.natural? argument.toList
  if number < UInt32.size then some (UInt32.ofNat number) else none

namespace Store

def resolve? (store : Store) (argument : String) : Option NetworkProfile :=
  ((NetworkId.ofArgument? argument).bind store.get?).or (store.findBySsid? argument)

def resolve (store : Store) (argument : String) : Except CommandError NetworkProfile :=
  match store.resolve? argument with
  | some profile => .ok profile
  | none => .error (.unknownNetwork argument)

end Store

structure CommandResult where
  answer : Except CommandError String
  store : Store
  folder : Folder

namespace Commands

def list (store : Store) (folder : Folder) : CommandResult where
  answer := .ok (Listing.text store.profiles)
  store := store
  folder := folder

def evaluate (store : Store) (folder : Folder) (tofuSupported : Bool) (argument : String) :
    CommandResult where
  answer := do
    let profile ← store.resolve argument
    return (store.evaluate profile tofuSupported).text ++ "\n"
  store := store
  folder := folder

/-- A command that has changed a store, if that could be saved. -/
def afterChange (left : Store.Committed) (text : String) : CommandResult where
  answer := (left.result.map fun _ => text).mapError .store
  store := left.store
  folder := left.folder

def reset (store : Store) (folder : Folder) (argument : String) : CommandResult :=
  match store.resolve argument with
  | .error error => ⟨.error error, store, folder⟩
  | .ok profile =>
      afterChange (store.update folder profile.networkId .reset)
        ("Cleared trust decisions for " ++ profile.ssid ++ "\n")

/-- The profile of a network that is added: an open one, or one with nothing trusted yet. -/
def newProfile (id : NetworkId) (ssid : String) (eapMethod? : Option EapMethod) (tofu : Bool) :
    NetworkProfile where
  networkId := id
  ssid := ssid
  autoConnect := true
  enterprise := eapMethod?.map fun eapMethod => { eapMethod, tofuEnabled := tofu }

/-- Adds a network, over one with the same number. -/
def add (store : Store) (folder : Folder) (id : NetworkId) (ssid : String)
    (eapMethod? : Option EapMethod) (tofu : Bool) : CommandResult :=
  afterChange (store.upsert folder (newProfile id ssid eapMethod? tofu))
    ("Saved network: " ++ ssid ++ " (" ++ toString id.toNat ++ ")\n")

end Commands

end TrustGate
