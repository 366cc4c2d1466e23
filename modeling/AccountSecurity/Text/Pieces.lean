/-!
# Pieces of a text

`pieces` cuts a text at every occurrence of a separator.
-/

namespace AccountSecurity.Text

/-- The pieces of a text between the separators, of which there is one more than there are separators. -/
def pieces (separator : Char) (s : String) : List String :=
  (s.toList.splitOnP (· == separator)).map String.ofList

end AccountSecurity.Text
