import TrustGate.Text.Blank

/-!
# EAP methods

The methods by which a network may authenticate its users. A method has two
names, one for people and one for stored profiles, which differ for AKA' only.
Commands take either, in any case and with dashes for underscores.
-/

namespace TrustGate

inductive EapMethod
  | peap
  | tls
  | ttls
  | pwd
  | sim
  | aka
  | akaPrime
  | unauthTls
  | wapiCert
deriving Repr, DecidableEq

namespace EapMethod

def all : List EapMethod :=
  [peap, tls, ttls, pwd, sim, aka, akaPrime, unauthTls, wapiCert]

def storedName : EapMethod → String
  | peap => "PEAP"
  | tls => "TLS"
  | ttls => "TTLS"
  | pwd => "PWD"
  | sim => "SIM"
  | aka => "AKA"
  | akaPrime => "AKA_PRIME"
  | unauthTls => "UNAUTH_TLS"
  | wapiCert => "WAPI_CERT"

/-- The name of a method for people. -/
def displayName : EapMethod → String
  | akaPrime => "AKA'"
  | method => method.storedName

def ofStoredName? (name : String) : Option EapMethod :=
  all.find? (·.storedName == name)

/-- Whether a server proves its identity by a certificate under a method. -/
def usesServerCertificate : EapMethod → Bool
  | peap | tls | ttls | unauthTls => true
  | pwd | sim | aka | akaPrime | wapiCert => false

/-- A name, as it was compared, that belongs to no method. -/
structure Unsupported where
  name : String
deriving Repr, DecidableEq

def Unsupported.message (error : Unsupported) : String :=
  "Unsupported EAP method: " ++ error.name

/-- The form of a name in which names are compared: ASCII capitals, and underscores for dashes. -/
def comparedName (name : String) : String :=
  String.ofList ((Text.asciiUpper name.toList).map fun char => if char = '-' then '_' else char)

def ofText (text : String) : Except Unsupported EapMethod :=
  let name := comparedName text
  match all.find? fun method => method.storedName == name || method.displayName == name with
  | some method => .ok method
  | none => .error ⟨name⟩

end EapMethod

end TrustGate
