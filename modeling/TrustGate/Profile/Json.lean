import TrustGate.Json.Printer
import TrustGate.Json.Reader
import TrustGate.Profile.Basic

/-!
# Profiles as JSON

The stored form of profiles. Writing spells every field out, in a fixed order.
Reading is more lenient: a field with a default may be missing, fields may come
in any order and with unknown ones between them, and a record may be an array
of its fields. The wrong type of a field, a null where none may stand, and a
field given twice are refused.
-/

namespace TrustGate

def Json.nullable? {α : Type} (read : Json → Option α) : Json → Option (Option α)
  | .null => some none
  | value => (read value).map some

def Json.required? {α : Type} (read : Json → Option α) : Option Json → Option α
  | some value => read value
  | none => none

/-- A field that takes its default when it is missing. -/
def Json.defaulted? {α : Type} (default : α) (read : Json → Option α) : Option Json → Option α
  | some value => read value
  | none => some default

namespace EapMethod

def toJson (method : EapMethod) : Json :=
  .ofString method.storedName

/-- A method is read from its stored name, or from an object whose one key is the name and whose
value is null. -/
def ofJson? : Json → Option EapMethod
  | .object [(key, .null)] => do
      ofStoredName? (String.ofList (← Json.decodePieces key))
  | value => do ofStoredName? (← value.string?)

end EapMethod

namespace PinnedCertificate

def fieldNames : List String :=
  ["fingerprint", "common_name", "der_hex"]

def toJson (pinned : PinnedCertificate) : Json :=
  .ofFields [
    ("fingerprint", .ofString pinned.fingerprint),
    ("common_name", .ofString pinned.commonName),
    ("der_hex", .ofString pinned.derHex)]

/-- Reads a pinned certificate; every field is required. -/
def ofJson? (value : Json) : Option PinnedCertificate := do
  match ← value.fields? fieldNames with
  | [fingerprint, commonName, derHex] =>
      return {
        fingerprint := ← Json.required? Json.string? fingerprint
        commonName := ← Json.required? Json.string? commonName
        derHex := ← Json.required? Json.string? derHex }
  | _ => none

end PinnedCertificate

namespace Enterprise

def fieldNames : List String :=
  ["eap_method", "ca_certificate", "tofu_enabled", "user_approved_no_ca_cert"]

def toJson (enterprise : Enterprise) : Json :=
  .ofFields [
    ("eap_method", enterprise.eapMethod.toJson),
    ("ca_certificate", (enterprise.caCertificate.map PinnedCertificate.toJson).getD .null),
    ("tofu_enabled", .bool enterprise.tofuEnabled),
    ("user_approved_no_ca_cert", .bool enterprise.approvedWithoutCa)]

/-- Reads the enterprise part of a profile; only the method is required. -/
def ofJson? (value : Json) : Option Enterprise := do
  match ← value.fields? fieldNames with
  | [eapMethod, caCertificate, tofuEnabled, approvedWithoutCa] =>
      return {
        eapMethod := ← Json.required? EapMethod.ofJson? eapMethod
        caCertificate :=
          ← Json.defaulted? none (Json.nullable? PinnedCertificate.ofJson?) caCertificate
        tofuEnabled := ← Json.defaulted? false Json.bool? tofuEnabled
        approvedWithoutCa := ← Json.defaulted? false Json.bool? approvedWithoutCa }
  | _ => none

end Enterprise

/-- Reads a network number: a natural number of at most 32 bits. -/
def NetworkId.ofJson? (value : Json) : Option NetworkId := do
  let number ← value.nat?
  if number < UInt32.size then return UInt32.ofNat number else none

namespace NetworkProfile

def fieldNames : List String :=
  ["network_id", "ssid", "auto_connect", "enterprise"]

def toJson (profile : NetworkProfile) : Json :=
  .ofFields [
    ("network_id", .ofNat profile.networkId.toNat),
    ("ssid", .ofString profile.ssid),
    ("auto_connect", .bool profile.autoConnect),
    ("enterprise", (profile.enterprise.map Enterprise.toJson).getD .null)]

/-- Reads a profile; its number and name are required. -/
def ofJson? (value : Json) : Option NetworkProfile := do
  match ← value.fields? fieldNames with
  | [networkId, ssid, autoConnect, enterprise] =>
      return {
        networkId := ← Json.required? NetworkId.ofJson? networkId
        ssid := ← Json.required? Json.string? ssid
        autoConnect := ← Json.defaulted? true Json.bool? autoConnect
        enterprise := ← Json.defaulted? none (Json.nullable? Enterprise.ofJson?) enterprise }
  | _ => none

def compactText (profile : NetworkProfile) : String :=
  String.ofList profile.toJson.compact

def ofText? (text : String) : Option NetworkProfile := do
  ofJson? (← Json.read? text.toList)

def listText (profiles : List NetworkProfile) : String :=
  String.ofList (Json.pretty (.array (profiles.map toJson)))

def listOfJson? : Json → Option (List NetworkProfile)
  | .array items => items.mapM ofJson?
  | _ => none

def listOfText? (text : String) : Option (List NetworkProfile) := do
  listOfJson? (← Json.read? text.toList)

end NetworkProfile

end TrustGate
