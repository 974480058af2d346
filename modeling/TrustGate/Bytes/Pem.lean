import TrustGate.Bytes.Base64
import TrustGate.Bytes.Utf8
import TrustGate.Text.Blank

/-!
# PEM blocks

Reading the first block of a PEM file. The file is taken line by line, each
line with its line feed, and every line up to the end of the block has to be
UTF-8. Lines before the one that opens the block are passed over. The lines
inside are trimmed at their ends and joined, and the result has to be Base64;
neither label is compared with anything.
-/

namespace TrustGate.Pem

open Text

inductive Error
  | notText
  | noOpening
  | malformedOpening
  | noClosing
  | notBase64
deriving Repr, DecidableEq

/-- The lines of a file, each with the line feed that ends it. -/
def lines : Bytes → List Bytes
  | [] => []
  | byte :: rest =>
      if byte = 0x0A then [byte] :: lines rest
      else
        match lines rest with
        | [] => [[byte]]
        | line :: later => (byte :: line) :: later

def openingMark : List Char := "-----BEGIN ".toList

def closingMark : List Char := "-----END ".toList

/-- The run that has to follow the label on the opening line. -/
def dashes : List Char := "-----".toList

def occursIn (needle : List Char) : List Char → Bool
  | [] => needle.isEmpty
  | char :: rest => needle.isPrefixOf (char :: rest) || occursIn needle rest

def lineText (line : Bytes) : Except Error (List Char) :=
  match Utf8.decode? line with
  | some chars => .ok chars
  | none => .error .notText

/-- Joins the lines up to the closing one, each without the blanks at its end. -/
def readBody : List Bytes → Except Error (List Char)
  | [] => .error .noClosing
  | line :: later => do
      let chars ← lineText line
      if closingMark.isPrefixOf chars then return []
      else return trimEnd chars ++ (← readBody later)

/-- Passes over the lines before the opening one, and joins those after it. -/
def readBlock : List Bytes → Except Error (List Char)
  | [] => .error .noOpening
  | line :: later => do
      let chars ← lineText line
      if openingMark.isPrefixOf chars then
        if occursIn dashes (chars.drop openingMark.length) then readBody later
        else .error .malformedOpening
      else readBlock later

/-- The contents of the first block of a file. -/
def decode (file : Bytes) : Except Error Bytes := do
  let body ← readBlock (lines file)
  match Base64.decode? body with
  | some contents => return contents
  | none => .error .notBase64

end TrustGate.Pem
