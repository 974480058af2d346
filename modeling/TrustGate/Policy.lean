import TrustGate.Profile.Basic

/-!
# Trust policy

Decides for one connection whether the user has to approve it, and under which
policy. Nothing is remembered: the answer depends on the profile and on whether
the device can pin certificates.
-/

namespace TrustGate

/-- What an approval leads to. -/
inductive TrustPolicy
  /-- Trust on first use: the certificate of the server is pinned. -/
  | tofu
  /-- The approval is remembered, and nothing else. -/
  | legacy
deriving Repr, DecidableEq

def TrustPolicy.name : TrustPolicy → String
  | tofu => "TOFU"
  | legacy => "legacy"

inductive ExemptionReason
  | notEnterprise
  | noServerCertificate
  | caCertificatePresent
  | tofuDisabled
  | previouslyApproved
deriving Repr, DecidableEq

def ExemptionReason.text : ExemptionReason → String
  | notEnterprise => "not an enterprise network"
  | noServerCertificate => "EAP method does not use a server certificate"
  | caCertificatePresent => "a CA certificate is configured"
  | tofuDisabled => "Trust On First Use is disabled for this network"
  | previouslyApproved => "the user approved this network before"

inductive ApprovalNeed
  | exempt (reason : ExemptionReason)
  | required (policy : TrustPolicy)
deriving Repr, DecidableEq

def ApprovalNeed.isRequired : ApprovalNeed → Bool
  | exempt _ => false
  | required _ => true

/-- The policy of the approval, if one is needed. -/
def ApprovalNeed.policy? : ApprovalNeed → Option TrustPolicy
  | exempt _ => none
  | required policy => some policy

theorem ApprovalNeed.policy?_eq_some_iff {need : ApprovalNeed} {policy : TrustPolicy} :
    need.policy? = some policy ↔ need = .required policy := by
  cases need <;> simp [policy?]

/-- An approval with a policy is needed. -/
theorem ApprovalNeed.isRequired_of_policy? {need : ApprovalNeed} {policy : TrustPolicy}
    (needed : need.policy? = some policy) : need.isRequired = true := by
  rw [policy?_eq_some_iff.mp needed, isRequired]

/-- Whether the user has to approve a connection to an enterprise network. On a device that can pin
certificates the profile decides; on another a former approval does. -/
def Enterprise.approvalNeed (enterprise : Enterprise) (tofuSupported : Bool) : ApprovalNeed :=
  if !enterprise.eapMethod.usesServerCertificate then .exempt .noServerCertificate
  else if enterprise.hasCaCertificate then .exempt .caCertificatePresent
  else if tofuSupported then
    if enterprise.tofuEnabled then .required .tofu else .exempt .tofuDisabled
  else if enterprise.approvedWithoutCa then .exempt .previouslyApproved
  else .required .legacy

def NetworkProfile.approvalNeed (profile : NetworkProfile) (tofuSupported : Bool) : ApprovalNeed :=
  match profile.enterprise with
  | none => .exempt .notEnterprise
  | some enterprise => enterprise.approvalNeed tofuSupported

end TrustGate
