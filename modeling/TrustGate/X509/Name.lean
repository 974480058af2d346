import TrustGate.X509.AttributeType
import TrustGate.Bytes.Utf8

/-!
# Names in certificates

A name is a sequence of sets of attributes. Reading keeps the sets in front
of the first malformed one, and in each set the attributes in front of the
first malformed one; a set without any attribute is malformed. So a damaged
name is a shorter name, not an error, as long as its outer length is right.

An attribute's value is text if it has one of four string types and is UTF-8.
-/

namespace TrustGate.X509

open Der

inductive AttributeValue
  | text (chars : List Char)
  | other (content : Bytes)
deriving Repr, DecidableEq

structure Attribute where
  type : ObjectId
  value : AttributeValue
deriving Repr, DecidableEq

/-- A name: a sequence of sets of attributes. -/
abbrev Name := List (List Attribute)

/-- The tag numbers of the string types that are read as text. -/
def textTags : List Nat :=
  [Tag.utf8String, Tag.printableString, Tag.ia5String, Tag.numericString]

def AttributeValue.ofElement (element : Element) : AttributeValue :=
  if element.header.tag ∈ textTags then
    match Utf8.decode? element.content with
    | some chars => .text chars
    | none => .other element.content
  else .other element.content

def Attribute.read (bytes : Bytes) : Option (Attribute × Bytes) := do
  let (element, rest) ← readTagged Tag.sequence bytes
  let (type, inner) ← ObjectId.read element.content
  let (value, _) ← readElement inner
  return (⟨type, AttributeValue.ofElement value⟩, rest)

/-- Reads one set of attributes, which has at least one. -/
def readAttributeSet (bytes : Bytes) : Option (List Attribute × Bytes) := do
  let (element, rest) ← readTagged Tag.set bytes
  let (attributes, _) := readMany Attribute.read element.content.length element.content
  guard (!attributes.isEmpty)
  return (attributes, rest)

def Name.read (bytes : Bytes) : Option (Name × Bytes) := do
  let (element, rest) ← readTagged Tag.sequence bytes
  return ((readMany readAttributeSet element.content.length element.content).1, rest)

end TrustGate.X509
