import TrustGate.Bytes.Pem
import TrustGate.Bytes.Sha256
import TrustGate.DistinguishedName
import TrustGate.X509.Certificate

/-!
# Server certificates

A server certificate is its DER bytes together with the one-line forms of its
subject and issuer. Its fingerprint is the SHA-256 digest of the bytes. A file
is read as PEM if, after ASCII blanks, it starts with the mark of a PEM block,
and as DER otherwise; bytes after a DER certificate are kept.
-/

namespace TrustGate

/-- A server certificate. Its fingerprint is not kept beside it: each way to make one computes it
from the bytes, and nothing changes it afterwards, so it is computed where it is used. -/
structure ServerCertificate where
  der : Bytes
  subject : String
  issuer : String
deriving Repr, DecidableEq

namespace ServerCertificate

inductive DecodeError
  | empty
  | pem (reason : Pem.Error)
  | der
deriving Repr, DecidableEq

/-- The text of an error, up to what the format's reader adds. -/
def DecodeError.message : DecodeError → String
  | .empty => "empty certificate data"
  | .pem _ => "invalid PEM block"
  | .der => "invalid DER certificate"

/-- The digest of a byte string in lowercase hexadecimal. -/
def fingerprintOf (bytes : Bytes) : String :=
  Hex.encode (Sha256.digest bytes)

def fingerprint (certificate : ServerCertificate) : String :=
  fingerprintOf certificate.der

def ofDer (bytes : Bytes) : Except DecodeError ServerCertificate :=
  if bytes.isEmpty then .error .empty
  else
    match X509.Certificate.read bytes with
    | none => .error .der
    | some decoded => .ok {
        der := bytes
        subject := String.ofList (DistinguishedName.render decoded.subject)
        issuer := String.ofList (DistinguishedName.render decoded.issuer) }

/-- The ASCII blanks that may stand in front of a PEM block. -/
def isAsciiBlank (byte : UInt8) : Bool :=
  byte == 0x20 || byte == 0x09 || byte == 0x0A || byte == 0x0C || byte == 0x0D

def pemMark : Bytes :=
  Utf8.encodeString "-----BEGIN"

def looksLikePem (file : Bytes) : Bool :=
  pemMark.isPrefixOf (file.dropWhile isAsciiBlank)

/-- Decodes a certificate file in either form. -/
def ofFile (file : Bytes) : Except DecodeError ServerCertificate :=
  if file.isEmpty then .error .empty
  else if looksLikePem file then
    match Pem.decode file with
    | .error reason => .error (.pem reason)
    | .ok contents => ofDer contents
  else ofDer file

def subjectInfo (certificate : ServerCertificate) :
    Except DistinguishedName.ParseError SubjectInfo :=
  SubjectInfo.parse certificate.subject

def issuerInfo (certificate : ServerCertificate) :
    Except DistinguishedName.ParseError SubjectInfo :=
  SubjectInfo.parse certificate.issuer

end ServerCertificate

end TrustGate
