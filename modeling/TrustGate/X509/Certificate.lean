import TrustGate.X509.Name
import TrustGate.Der.Time

/-!
# X.509 certificates

Reading the parts of a certificate that an approval needs: issuer and subject.
The parts around them are read too, and a certificate in which one of them is
malformed is none. Checks are those that reading itself calls for. So neither
signature nor dates are compared with anything, an extension may hold any
bytes, and bytes after the certificate, or after the last part of a sequence,
are passed over.
-/

namespace TrustGate.X509

open Der

structure Certificate where
  issuer : Name
  subject : Name
deriving Repr, DecidableEq

/-- Whether a version number is written as an integer of at most thirty-two bits. -/
def isVersion (element : Element) : Bool :=
  element.header.tag == Tag.integer && !element.header.constructed &&
    match element.content with
    | [] => false
    | [byte] => byte < 0x80
    | first :: second :: rest =>
        if first = 0 then 0x80 ≤ second && rest.length + 1 ≤ 4
        else first < 0x80 && rest.length + 2 ≤ 4

/-- Passes over the version, which may be left out. -/
def skipVersion (bytes : Bytes) : Option Bytes :=
  match bytes with
  | [] => some []
  | _ => do
      let (element, rest) ← readElement bytes
      if element.header.tag = 0 then
        guard (element.header.tagClass = .contextSpecific)
        let (version, _) ← readElement element.content
        guard (isVersion version)
        return rest
      else return bytes

/-- Passes over an algorithm: an identifier and parameters of any kind, or none. -/
def skipAlgorithm (bytes : Bytes) : Option Bytes := do
  let (element, rest) ← readTagged Tag.sequence bytes
  let (_, parameters) ← ObjectId.read element.content
  if parameters.isEmpty then return rest
  let _ ← readElement parameters
  return rest

def skipValidity (bytes : Bytes) : Option Bytes := do
  let (element, rest) ← readTagged Tag.sequence bytes
  let (_, inner) ← Time.read element.content
  let _ ← Time.read inner
  return rest

def trailingZeros (byte : UInt8) : Nat :=
  ((List.range 8).find? fun index => byte.toNat.testBit index).getD 8

/-- Whether the content of a bit string leaves its unused bits zero. -/
def isBitString (element : Element) : Bool :=
  !element.header.constructed &&
    match element.content with
    | [] => false
    | unused :: bits =>
        match bits.getLast? with
        | none => unused == 0
        | some last => unused.toNat ≤ trailingZeros last

def skipBitString (bytes : Bytes) : Option Bytes := do
  let (element, rest) ← readTagged Tag.bitString bytes
  guard (isBitString element)
  return rest

def skipPublicKey (bytes : Bytes) : Option Bytes := do
  let (element, rest) ← readTagged Tag.sequence bytes
  let inner ← skipAlgorithm element.content
  let _ ← skipBitString inner
  return rest

/-- Passes over a unique identifier with the given number, which may be left out. -/
def skipUniqueId (number : Nat) (bytes : Bytes) : Option Bytes :=
  match bytes with
  | [] => some []
  | _ => do
      let (element, rest) ← readElement bytes
      if element.header.tag = number then
        guard (element.header.tagClass = .contextSpecific && isBitString element)
        return rest
      else return bytes

/-- Passes over the mark of a critical extension, which may be left out. -/
def skipCritical (bytes : Bytes) : Option Bytes := do
  let (element, rest) ← readElement bytes
  if element.header.tag = Tag.boolean ∧ element.header.length = 1 then return rest
  else return bytes

/-- Reads one extension: an identifier, perhaps the mark, and a value. -/
def readExtension (bytes : Bytes) : Option (ObjectId × Bytes) := do
  let (element, rest) ← readTagged Tag.sequence bytes
  let (type, inner) ← ObjectId.read element.content
  let inner ← skipCritical inner
  let (value, _) ← readTagged Tag.octetString inner
  guard (!value.header.constructed)
  return (type, rest)

/-- Whether the end of a certificate's body is well formed: empty, or a header numbered three
and then a sequence of extensions up to the end. -/
def areExtensions (bytes : Bytes) : Bool :=
  match bytes with
  | [] => true
  | _ => Option.isSome do
      let (header, inner) ← readHeader bytes
      guard (header.tag = 3)
      let (element, rest) ← readTagged Tag.sequence inner
      guard (rest.isEmpty &&
        (readMany readExtension element.content.length element.content).2.isEmpty)

def readBody (bytes : Bytes) : Option (Certificate × Bytes) := do
  let (body, rest) ← readTagged Tag.sequence bytes
  let inner ← skipVersion body.content
  let (_, inner) ← readTagged Tag.integer inner
  let inner ← skipAlgorithm inner
  let (issuer, inner) ← Name.read inner
  let inner ← skipValidity inner
  let (subject, inner) ← Name.read inner
  let inner ← skipPublicKey inner
  let inner ← skipUniqueId 1 inner
  let inner ← skipUniqueId 2 inner
  guard (areExtensions inner)
  return (⟨issuer, subject⟩, rest)

/-- Reads the certificate that a file starts with. -/
def Certificate.read (bytes : Bytes) : Option Certificate := do
  let (element, _) ← readTagged Tag.sequence bytes
  let (certificate, inner) ← readBody element.content
  let inner ← skipAlgorithm inner
  let _ ← skipBitString inner
  return certificate

end TrustGate.X509
