import TrustGate.Text.Blank
import TrustGate.Text.Quoted
import TrustGate.X509.Name

/-!
# Distinguished names

The one-line form of a name: components separated by commas, each a key and a
value with an equals sign between. A backslash takes the special meaning away
from the character after it. `render` writes a decoded name in this form, and
`SubjectInfo.parse` reads the few fields that are shown to the user.

`splitUnescaped`, `unescape` and `escapeValue` carry the grammar. They work on
lists of characters and recur on them directly, so that what splitting and
unescaping keep can be proved by induction.
-/

namespace TrustGate.DistinguishedName

open Text

/-- The pieces between unescaped commas. The flag tells whether the next character is escaped. -/
def splitFrom : Bool → List Char → List (List Char)
  | _, [] => [[]]
  | escaped, char :: rest =>
      if char = ',' ∧ escaped = false then [] :: splitFrom false rest
      else
        match splitFrom (char = '\\' && !escaped) rest with
        | [] => [[char]]
        | piece :: pieces => (char :: piece) :: pieces

/-- The pieces between the commas that no backslash escapes. -/
def splitUnescaped (chars : List Char) : List (List Char) :=
  splitFrom false chars

/-- Takes escapes away: of a backslash and the character after it only the latter stays, and a
backslash at the very end is dropped. -/
def unescape : List Char → List Char
  | [] => []
  | [char] => if char = '\\' then [] else [char]
  | char :: next :: rest =>
      if char = '\\' then next :: unescape rest else char :: unescape (next :: rest)

def isSeparator (char : Char) : Bool :=
  char == ',' || char == '+' || char == '\\'

/-- A value with a backslash in front of every separator. -/
def escapeValue (chars : List Char) : List Char :=
  chars.flatMap fun char => if isSeparator char then ['\\', char] else [char]

/-- A written attribute value: escaped text, or a number sign and the content in hexadecimal. -/
def renderValue : X509.AttributeValue → List Char
  | .text chars => escapeValue chars
  | .other content => '#' :: Hex.encodeChars content

def renderAttribute (item : X509.Attribute) : List Char :=
  (X509.keyOfType item.type).toList ++ '=' :: renderValue item.value

def renderAttributeSet (attributes : List X509.Attribute) : List Char :=
  [' ', '+', ' '].intercalate (attributes.map renderAttribute)

def render (name : X509.Name) : List Char :=
  [',', ' '].intercalate (name.map renderAttributeSet)

inductive Field
  | commonName
  | organization
  | organizationalUnit
  | country
  | state
  | locality
  | email
deriving Repr, DecidableEq

/-- The field named by a key, whose letters may be in either case and may stand between blanks. -/
def Field.ofKey? (key : List Char) : Option Field :=
  match String.ofList (asciiUpper (trim key)) with
  | "CN" => some .commonName
  | "O" => some .organization
  | "OU" => some .organizationalUnit
  | "C" => some .country
  | "ST" => some .state
  | "L" => some .locality
  | "E" | "EMAIL" | "EMAILADDRESS" => some .email
  | _ => none

inductive ParseError
  /-- A component has no equals sign. -/
  | malformedComponent (component : String)
  /-- There is no common name, or an empty one. -/
  | missingCommonName
deriving Repr, DecidableEq

def ParseError.message : ParseError → String
  | .malformedComponent component =>
      "malformed distinguished name component: " ++ String.ofList (quote component.toList)
  | .missingCommonName => "distinguished name has no common name"

/-- The key and the value of a component, divided at its first equals sign. -/
def splitComponent? (component : List Char) : Option (List Char × List Char) :=
  let key := component.takeWhile (· != '=')
  match component.drop key.length with
  | [] => none
  | _ :: value => some (key, value)

/-- The components of a name: the trimmed pieces that are not empty. -/
def components (chars : List Char) : List (List Char) :=
  ((splitUnescaped chars).map trim).filter (!·.isEmpty)

/-- Reads a component into the field it names, if any, and the unescaped value. -/
def readComponent (component : List Char) : Except ParseError (Option Field × List Char) :=
  match splitComponent? component with
  | none => .error (.malformedComponent (String.ofList component))
  | some (key, value) => .ok (Field.ofKey? key, unescape (trim value))

end DistinguishedName

open DistinguishedName

/-- What is shown to the user of the subject or the issuer of a certificate. -/
structure SubjectInfo where
  /-- The whole name without escapes. -/
  raw : String
  commonName : String := ""
  organization : String := ""
  organizationalUnit : String := ""
  country : String := ""
  state : String := ""
  locality : String := ""
  email : String := ""
deriving Repr, DecidableEq

namespace SubjectInfo

def set (info : SubjectInfo) (field : Field) (value : String) : SubjectInfo :=
  match field with
  | .commonName => { info with commonName := value }
  | .organization => { info with organization := value }
  | .organizationalUnit => { info with organizationalUnit := value }
  | .country => { info with country := value }
  | .state => { info with state := value }
  | .locality => { info with locality := value }
  | .email => { info with email := value }

def get (info : SubjectInfo) : Field → String
  | .commonName => info.commonName
  | .organization => info.organization
  | .organizationalUnit => info.organizationalUnit
  | .country => info.country
  | .state => info.state
  | .locality => info.locality
  | .email => info.email

/-- Stores what a component says; one whose key names no field changes nothing. -/
def addComponent (info : SubjectInfo) (component : List Char) : Except ParseError SubjectInfo := do
  let (field?, value) ← readComponent component
  match field? with
  | some field => return info.set field (String.ofList value)
  | none => return info

/-- Reads a name. The first malformed component decides over a missing common name, and of several
components for one field the last counts. -/
def parse (name : String) : Except ParseError SubjectInfo := do
  let chars := name.toList
  let info ← (components chars).foldlM addComponent { raw := String.ofList (unescape chars) }
  if info.commonName.isEmpty then throw .missingCommonName
  return info

end SubjectInfo

end TrustGate
