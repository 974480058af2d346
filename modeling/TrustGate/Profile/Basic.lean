import TrustGate.EapMethod

/-!
# Network profiles

A saved network: its number, its name, whether the device may join it on its
own, and for an enterprise network how users are authenticated and what is
trusted.
-/

namespace TrustGate

abbrev NetworkId := UInt32

/-- A certificate authority that a network was bound to. -/
structure PinnedCertificate where
  /-- The SHA-256 digest of the certificate in lowercase hexadecimal. -/
  fingerprint : String
  /-- The common name of the subject, kept to be shown. -/
  commonName : String
  /-- The certificate in lowercase hexadecimal. -/
  derHex : String
deriving Repr, DecidableEq

structure Enterprise where
  eapMethod : EapMethod
  /-- The authority whose certificates the network has to present, if one is known. -/
  caCertificate : Option PinnedCertificate := none
  /-- Whether the first certificate that a network presents may be trusted. -/
  tofuEnabled : Bool := false
  /-- Whether the user once joined the network without an authority. -/
  approvedWithoutCa : Bool := false
deriving Repr, DecidableEq

def Enterprise.hasCaCertificate (enterprise : Enterprise) : Bool :=
  enterprise.caCertificate.isSome

structure NetworkProfile where
  networkId : NetworkId
  ssid : String
  /-- Whether the device may join the network on its own. -/
  autoConnect : Bool := true
  /-- The enterprise part, absent for other networks. -/
  enterprise : Option Enterprise := none
deriving Repr, DecidableEq

end TrustGate
