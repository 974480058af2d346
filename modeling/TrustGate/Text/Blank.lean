/-!
# Blank characters

Which characters count as white space, and how text is trimmed of them. The
set is the Unicode property `White_Space`, so a no-break space or an
ideographic space at either end of a text goes as an ASCII space does, while a
zero-width space stays.

Text is handled as a list of characters. `trim` is the composition of two one
sided trims, each of which drops the longest blank run at its end.
-/

namespace TrustGate.Text

/-- The characters with the Unicode property `White_Space`. -/
def isBlank (char : Char) : Bool :=
  let code := char.toNat
  (0x09 ≤ code && code ≤ 0x0D) || code == 0x20 || code == 0x85 || code == 0xA0 ||
    code == 0x1680 || (0x2000 ≤ code && code ≤ 0x200A) || code == 0x2028 ||
    code == 0x2029 || code == 0x202F || code == 0x205F || code == 0x3000

def trimStart (chars : List Char) : List Char :=
  chars.dropWhile isBlank

def trimEnd (chars : List Char) : List Char :=
  (chars.reverse.dropWhile isBlank).reverse

def trim (chars : List Char) : List Char :=
  trimEnd (trimStart chars)

def asciiUpper (chars : List Char) : List Char :=
  chars.map Char.toUpper

end TrustGate.Text
