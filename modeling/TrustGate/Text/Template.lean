/-!
# Message templates

A template is a text with at most one place to fill. The place is written as
an opening brace directly followed by a closing one; only the first such pair
is a place, and the value put there is not read again.
-/

namespace TrustGate.Text

/-- The template with its first place replaced by the value. -/
def fillChars (value : List Char) : List Char → List Char
  | [] => []
  | [char] => [char]
  | first :: second :: rest =>
      if first = '{' ∧ second = '}' then value ++ rest
      else first :: fillChars value (second :: rest)

def fill (template value : String) : String :=
  String.ofList (fillChars value.toList template.toList)

end TrustGate.Text
