import TrustGate.Policy
import TrustGate.Store.Basic

/-!
# Evaluation

What can be told of a saved network before a connection to it is tried: whether
its user will be asked, and under which policy. It is what the gate goes by
when it prepares the connection.
-/

namespace TrustGate

inductive Evaluation
  | exempt (reason : ExemptionReason)
  /-- Approval would be needed, but the store has an authority for the network. -/
  | trusted
  | required (policy : TrustPolicy)
deriving Repr, DecidableEq

def Evaluation.text : Evaluation → String
  | exempt reason => "No approval needed: " ++ reason.text
  | trusted => "No approval needed: a trusted certificate is stored"
  | required policy => "Approval needed under policy: " ++ policy.name

/-- Whether a connection to a network will have to be approved, on a device that can or cannot pin
certificates. -/
def Store.evaluate (store : Store) (profile : NetworkProfile) (tofuSupported : Bool) : Evaluation :=
  match profile.approvalNeed tofuSupported with
  | .exempt reason => .exempt reason
  | .required policy =>
      if store.hasValidTrust profile.networkId then .trusted else .required policy

end TrustGate
