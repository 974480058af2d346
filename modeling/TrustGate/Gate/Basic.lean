import TrustGate.Exchange
import TrustGate.Prompt.Slot
import TrustGate.Store.Basic
import TrustGate.Supplicant.Basic

/-!
# The gate

The gate lets a connection to an enterprise network pass once the user has
approved it. It holds at most one flow. A connection attempt starts it, the
certificate that the server presents is kept with it, the user is asked, and
the answer is written to the store, told to the supplicant and reported to the
owner of the connection.

The gate does none of this itself: it makes calls, and what it does next may
depend on the replies. So its operations are exchanges, and the gate is pure
data between them.

Answers are matched by network name. One that comes while no flow is pending is
either late, if it is for the flow that ended last, or it tells that somebody
still waits for an outcome; then an error is reported.
-/

namespace TrustGate

inductive GateCall
  /-- Whether the stored profile of a network has an authority. -/
  | hasValidTrust (id : NetworkId)
  | update (id : NetworkId) (change : Store.Change)
  | invalidateSession (id : NetworkId)
  | forgetCredentials (interface : String)
  | present (prompt : Prompt)
  | dismiss (handle : PromptHandle)
  /-- Tells the owner of the connection how a flow ended. -/
  | report (outcome : TrustOutcome)
deriving Repr, DecidableEq

@[reducible] def GateReply : GateCall → Type
  | .hasValidTrust _ => Bool
  | .update _ _ => Except Store.Error Unit
  | .invalidateSession _ => Bool
  | .forgetCredentials _ => Bool
  | .present _ => PromptHandle
  | .dismiss _ => Unit
  | .report _ => Unit

structure GateSettings where
  tofuSupported : Bool
  /-- The interface whose credentials are dropped. -/
  interface : String
  /-- The page that prompts without a certificate link to. -/
  helpLink : String
deriving Repr, DecidableEq

/-- The gate between its operations. -/
structure Gate where
  settings : GateSettings
  flow? : Option Flow := none
  /-- The prompt that was shown and not taken away. -/
  prompt? : Option PromptHandle := none
  /-- The policy whose notification actions are listened to. -/
  registration? : Option TrustPolicy := none
  /-- The network of the flow that ended last. -/
  retired? : Option String := none
deriving Repr, DecidableEq

namespace Gate

def state (gate : Gate) : FlowState :=
  .ofFlow? gate.flow?

def certificate? (gate : Gate) : Option PendingCertificate := do
  (← gate.flow?).certificate?

/-! ## Steps -/

def ask (call : GateCall) : Exchange GateReply (GateReply call) :=
  Exchange.call call

def dismissPrompt (gate : Gate) : Exchange GateReply Gate := do
  match gate.prompt? with
  | none => return gate
  | some handle =>
      ask (.dismiss handle)
      return { gate with prompt? := none }

/-- Drops the flow and keeps the name of its network. -/
def retire (gate : Gate) : Gate :=
  match gate.flow? with
  | none => gate
  | some flow => { gate with flow? := none, retired? := some flow.ssid }

/-- Drops the session of a network, if one is given, and the credentials of the interface. -/
def dropCredentials (gate : Gate) (id? : Option NetworkId) : Exchange GateReply Unit :=
  resetCredentials (fun id => ask (.invalidateSession id))
    (fun interface => ask (.forgetCredentials interface)) id? gate.settings.interface

/-- Shows a prompt in place of the former one; the flow then waits for the user. -/
def present (gate : Gate) (flow : Flow) (prompt : Prompt) : Exchange GateReply Gate := do
  let gate ← gate.dismissPrompt
  let handle ← ask (.present prompt)
  return { gate with flow? := some { flow with stage := .approval }, prompt? := some handle }

/-- Shows the dialog of a flow, if it can have one. -/
def presentDialog (gate : Gate) (flow : Flow) : Exchange GateReply Gate :=
  match Dialog.ofFlow? flow.connection flow.certificate? gate.settings.helpLink with
  | none => .done gate
  | some dialog => gate.present flow (.dialog dialog)

def presentNotification (gate : Gate) (flow : Flow) : Exchange GateReply Gate :=
  gate.present flow (.notification (.ofFlow flow.connection gate.settings.helpLink))

/-! ## Resolutions -/

/-- Ends what there is of a flow as an error and reports it for a network, if one is known. -/
def resolveError (gate : Gate) (ssid? : Option String) : Exchange GateReply Gate := do
  let gate ← gate.dismissPrompt
  gate.dropCredentials (gate.flow?.map Flow.networkId)
  ask (.report (.errored ssid?))
  return { gate with flow? := none, retired? := ssid? }

/-- Pins a certificate. If that fails, the approval and the permission to trust a first certificate
are taken back. -/
def pin (id : NetworkId) (certificate : ServerCertificate) : Exchange GateReply Unit := do
  match ← ask (.update id (.pin certificate)) with
  | .ok () => return ()
  | .error _ =>
      let _ ← ask (.update id (.setApproved false))
      let _ ← ask (.update id (.setTofu false))

/-- Writes down that a flow was approved. -/
def recordApproval (flow : Flow) : Exchange GateReply Unit := do
  match flow.policy, flow.certificate? with
  | .tofu, some pending => pin flow.networkId pending.certificate
  | _, _ => let _ ← ask (.update flow.networkId (.setApproved true))
  let _ ← ask (.update flow.networkId (.setAutoConnect true))

/-- Whether a flow lacks the certificate that its policy is about. -/
def lacksCertificate (flow : Flow) : Bool :=
  flow.policy = .tofu ∧ flow.certificate? = none

def resolveAccept (gate : Gate) (flow : Flow) : Exchange GateReply Gate :=
  if lacksCertificate flow then gate.resolveError (some flow.ssid)
  else do
    let gate ← gate.dismissPrompt
    recordApproval flow
    ask (.report (.accepted flow.ssid))
    return { gate with flow? := none, retired? := some flow.ssid }

def resolveReject (gate : Gate) (flow : Flow) : Exchange GateReply Gate := do
  let gate ← gate.dismissPrompt
  let _ ← ask (.update flow.networkId (.setAutoConnect false))
  gate.dropCredentials (some flow.networkId)
  ask (.report (.rejected flow.ssid))
  return { gate with flow? := none, retired? := some flow.ssid }

/-! ## Operations -/

/-- Starts a flow for a network. Its credentials are dropped, lest the supplicant resume a session
without asking the server for its certificate. -/
def start (gate : Gate) (profile : NetworkProfile) (policy : TrustPolicy)
    (requiresCaCertificate : Bool) : Exchange GateReply (Bool × Gate) := do
  gate.dropCredentials (some profile.networkId)
  let connection : PendingConnection := {
    identity := ⟨profile.ssid, profile.networkId⟩
    requiresCaCertificate
    policy }
  return (true, { gate with registration? := some policy, flow? := some { connection } })

/-- Starts a connection attempt. A flow in progress is dropped without a report. The result tells
whether the attempt has to be approved, and so whether a new flow has started. -/
def prepare (gate : Gate) (profile : NetworkProfile) : Exchange GateReply (Bool × Gate) := do
  let gate ← gate.retire.dismissPrompt
  let need := profile.approvalNeed gate.settings.tofuSupported
  match need.policy? with
  | none => return (false, { gate with registration? := none })
  | some policy =>
      let trusted ← ask (.hasValidTrust profile.networkId)
      if trusted = true then return (false, { gate with registration? := none })
      -- An approval is only ever needed where the server has to show a certificate.
      else gate.start profile policy need.isRequired

/-- The certificate with what its names say, if both can be read. -/
def readCertificate? (certificate : ServerCertificate) : Option PendingCertificate :=
  match certificate.subjectInfo, certificate.issuerInfo with
  | .ok subject, .ok issuer => some { certificate, subject, issuer }
  | _, _ => none

/-- Keeps the certificate that the server of a network presented. It is turned down unless a flow
for just this network is pending without a certificate and the names can be read. -/
def offer (gate : Gate) (ssid : String) (certificate : ServerCertificate) : Bool × Gate :=
  match gate.flow? with
  | none => (false, gate)
  | some flow =>
      if ssid = "" ∨ flow.ssid ≠ ssid ∨ flow.certificate? ≠ none then (false, gate)
      else
        match readCertificate? certificate with
        | none => (false, gate)
        | some pending => (true, { gate with flow? := some { flow with certificate? := pending } })

/-- Asks the user about the pending flow, by a dialog if the user started the connection and by a
notification if not. A flow that lacks its certificate ends as an error at once. The result tells
whether there was a flow. -/
def request (gate : Gate) (userInitiated : Bool) : Exchange GateReply (Bool × Gate) := do
  match gate.flow? with
  | none => return (false, gate)
  | some flow =>
      if lacksCertificate flow then return (true, ← gate.resolveError (some flow.ssid))
      else if userInitiated then return (true, ← gate.presentDialog flow)
      else return (true, ← gate.presentNotification flow)

/-- Whether an action of a notification is listened to. -/
def listensTo (gate : Gate) (action : ResponseAction) : Bool :=
  match gate.registration?, action with
  | some .tofu, .review => true
  | some .legacy, .accept => true
  | some .legacy, .reject => true
  | _, _ => false

/-- Shows the dialog in place of the prompt, if the response is for the pending flow. -/
def review (gate : Gate) (ssid? : Option String) : Exchange GateReply Gate := do
  match gate.flow? with
  | none => return gate
  | some flow =>
      if ssid? ≠ some flow.ssid then return gate
      else (← gate.dismissPrompt).presentDialog flow

/-- Resolves the pending flow if the response is for it. Without a flow an error is reported, unless
the response is a late one for the flow that ended last. -/
def decide (gate : Gate) (ssid? : Option String)
    (resolve : Gate → Flow → Exchange GateReply Gate) : Exchange GateReply Gate :=
  match gate.flow? with
  | none =>
      if ssid?.isSome ∧ ssid? = gate.retired? then .done gate else gate.resolveError none
  | some flow => if ssid? = some flow.ssid then resolve gate flow else .done gate

def respond (gate : Gate) (response : Response) : Exchange GateReply Gate :=
  if response.source = .notification ∧ gate.listensTo response.action = false then .done gate
  else
    match response.action with
    | .review => gate.review response.ssid?
    | .accept => gate.decide response.ssid? resolveAccept
    | .reject => gate.decide response.ssid? resolveReject

/-- Drops the flow on disconnect. What was decided stays, and credentials are left alone. -/
def clear (gate : Gate) : Exchange GateReply Gate := do
  let gate ← { gate with registration? := none }.dismissPrompt
  return gate.retire

inductive Operation
  | prepare (profile : NetworkProfile)
  | offer (ssid : String) (certificate : ServerCertificate)
  | request (userInitiated : Bool)
  | respond (response : Response)
  | clear
deriving Repr, DecidableEq

/-- Performs an operation. Responses and clearing have no result. -/
def perform (gate : Gate) : Operation → Exchange GateReply (Option Bool × Gate)
  | .prepare profile => do
      let (started, gate) ← gate.prepare profile
      return (some started, gate)
  | .offer ssid certificate =>
      let (taken, gate) := gate.offer ssid certificate
      .done (some taken, gate)
  | .request userInitiated => do
      let (asked, gate) ← gate.request userInitiated
      return (some asked, gate)
  | .respond response => do return (none, ← gate.respond response)
  | .clear => do return (none, ← gate.clear)

end Gate

end TrustGate
