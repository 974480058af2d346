import TrustGate.Commands
import TrustGate.Session
import TrustGate.Settings

/-!
# Connection attempts

An attempt leads one connection through the gate. It opens the store anew,
finds the network and reads the certificate that the server presented; a
certificate that cannot be decoded, or that the gate turns down, is left out
with a warning. If the gate then needs no approval, or finds that there is
nothing valid to decide about, the attempt has ended. Otherwise its prompt is on
the screen, and the attempt goes on as a session until that is left.
-/

namespace TrustGate

structure AttemptRequest where
  network : String
  certificatePath : String
  /-- What stands at that path. -/
  certificateFile : Entry
  /-- Whether the device reconnects on its own, so that the user is notified first. -/
  background : Bool
deriving Repr, DecidableEq

inductive AttemptEnd
  /-- Nothing had to be approved. -/
  | passed (evaluation : Evaluation)
  | resolved (outcome : TrustOutcome)
  /-- The screen was left before there was an outcome. -/
  | abandoned
deriving Repr, DecidableEq

def TrustOutcome.text : TrustOutcome → String
  | accepted ssid => "Connection accepted: " ++ ssid
  | rejected ssid => "Connection rejected: " ++ ssid
  | errored _ => "Connection aborted, no valid certificate data"

def AttemptEnd.text : AttemptEnd → String
  | passed evaluation => evaluation.text
  | resolved outcome => outcome.text
  | abandoned => "Closed before a decision was made"

structure Attempt where
  session : Session
  warnings : List String := []
  /-- The end that came without a prompt. -/
  early? : Option AttemptEnd := none

namespace Attempt

def certificateWarning : String :=
  "Certificate was not accepted for this connection"

def decodeCertificate (content : Bytes) : Option ServerCertificate × List String :=
  match ServerCertificate.ofFile content with
  | .ok certificate => (some certificate, [])
  | .error error => (none, [certificateWarning ++ ": " ++ error.message])

def openSession (settings : Settings) (dryRun : Bool) (standIn : Supplicant.StandIn)
    (folder : Folder) (store : Store) : Session where
  controller := { gate := { settings := settings.gate } }
  surroundings := {
    store? := some store, folder, standIn
    supplicant? := some { interface := settings.interface, dryRun } }

/-- Offers a certificate, if there is one; a warning tells that it is turned down. -/
def offer (session : Session) (ssid : String) :
    Option ServerCertificate → Session × List String
  | none => (session, [])
  | some certificate =>
      let step := session.send (.operate (.offer ssid certificate))
      (step.session, if step.value = .result true then [] else [certificateWarning])

/-- Asks for approval. The screen is opened unless there is an outcome at once. -/
def ask (session : Session) (background : Bool) (warnings : List String) : Attempt :=
  let session := (session.send (.operate (.request !background))).session
  match session.surroundings.outcomes with
  | outcome :: _ => { session, warnings, early? := some (.resolved outcome) }
  | [] => { session := session.tick.session, warnings }

/-- Leads a connection to a network up to the gate. -/
def lead (session : Session) (profile : NetworkProfile) (evaluation : Evaluation)
    (certificate? : Option ServerCertificate) (warnings : List String) (background : Bool) :
    Attempt :=
  let prepared := session.send (.operate (.prepare profile))
  if prepared.value = .result true then
    let (session, more) := offer prepared.session profile.ssid certificate?
    ask session background (warnings ++ more)
  else { session := prepared.session, warnings, early? := some (.passed evaluation) }

def start (settings : Settings) (dryRun : Bool) (standIn : Supplicant.StandIn) (folder : Folder)
    (request : AttemptRequest) : Except CommandError Attempt := do
  let store ← (Store.ofFolder folder).mapError .store
  let profile ← store.resolve request.network
  match request.certificateFile with
  | .file content =>
      let (certificate?, warnings) := decodeCertificate content
      let session := openSession settings dryRun standIn folder store
      return lead session profile (store.evaluate profile settings.tofuSupported) certificate?
        warnings request.background
  | _ => throw (.unreadableCertificate request.certificatePath)

def hasEnded (attempt : Attempt) : Bool :=
  attempt.early?.isSome || attempt.session.screen.shouldQuit

def follow (attempt : Attempt) (happenings : List Session.Happening) : Attempt :=
  if attempt.early?.isSome then attempt
  else { attempt with session := attempt.session.follow happenings }

/-- How an attempt ends if its screen is left now. -/
def ending (attempt : Attempt) : AttemptEnd :=
  match attempt.early?, attempt.session.screen.outcome? with
  | some early, _ => early
  | none, some outcome => .resolved outcome
  | none, none => .abandoned

end Attempt

end TrustGate
