import TrustGate.Text.Printable

/-!
# Quoted text

How a text is shown inside a message: between double quotes, with a backslash
in front of quotes and backslashes, the usual letters for line feed, carriage
return, tab and the zero character, and every other character that cannot be
shown on its own by its code point in braces. An apostrophe stands for itself.
-/

namespace TrustGate.Text

/-- Whether a character is shown by its code point. -/
def needsCodePoint (char : Char) : Bool :=
  graphemeExtend.contains char || unprintable.contains char

def quoteChar (char : Char) : List Char :=
  match char with
  | '"' => ['\\', '"']
  | '\\' => ['\\', '\\']
  | '\n' => ['\\', 'n']
  | '\r' => ['\\', 'r']
  | '\t' => ['\\', 't']
  | '\x00' => ['\\', '0']
  | _ =>
      if needsCodePoint char then
        ['\\', 'u', '{'] ++ Nat.toDigits 16 char.toNat ++ ['}']
      else [char]

def quote (chars : List Char) : List Char :=
  '"' :: chars.flatMap quoteChar ++ ['"']

end TrustGate.Text
