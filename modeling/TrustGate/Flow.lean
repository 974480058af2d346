import TrustGate.Certificate
import TrustGate.Policy

/-!
# Flows

A flow lasts from the moment a connection that has to be approved starts until
the user or an error resolves it. It concerns one network under one policy, and
may hold the certificate that the server presented.
-/

namespace TrustGate

structure NetworkIdentity where
  /-- The name, by which responses are matched. -/
  ssid : String
  networkId : NetworkId
deriving Repr, DecidableEq

def NetworkIdentity.text (identity : NetworkIdentity) : String :=
  identity.ssid ++ " (#" ++ toString identity.networkId.toNat ++ ")"

structure PendingConnection where
  identity : NetworkIdentity
  /-- Whether the server has to prove its identity by a certificate. -/
  requiresCaCertificate : Bool
  policy : TrustPolicy
deriving Repr, DecidableEq

/-- A certificate to be decided about, with what its names say. -/
structure PendingCertificate where
  certificate : ServerCertificate
  subject : SubjectInfo
  issuer : SubjectInfo
deriving Repr, DecidableEq

inductive FlowStage
  /-- A certificate, or to be shown to the user. -/
  | certificate
  | approval
deriving Repr, DecidableEq

structure Flow where
  connection : PendingConnection
  certificate? : Option PendingCertificate := none
  stage : FlowStage := .certificate
deriving Repr, DecidableEq

def Flow.ssid (flow : Flow) : String :=
  flow.connection.identity.ssid

def Flow.networkId (flow : Flow) : NetworkId :=
  flow.connection.identity.networkId

def Flow.policy (flow : Flow) : TrustPolicy :=
  flow.connection.policy

inductive FlowState
  | idle
  | awaitingCertificate
  | awaitingApproval
deriving Repr, DecidableEq

def FlowState.ofFlow? : Option Flow → FlowState
  | none => .idle
  | some flow =>
      match flow.stage with
      | .certificate => .awaitingCertificate
      | .approval => .awaitingApproval

inductive TrustOutcome
  | accepted (ssid : String)
  | rejected (ssid : String)
  /-- There was nothing valid to decide about; the network may be unknown. -/
  | errored (ssid? : Option String)
deriving Repr, DecidableEq

end TrustGate
