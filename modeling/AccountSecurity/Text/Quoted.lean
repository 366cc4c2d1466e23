import AccountSecurity.Text.Printable

/-!
# Quoted text in messages

* `quoted` : a text between single quotes, or between double quotes if it holds a single quote and no
  double quote. The quote in use, backslashes and line ends are escaped, and characters that cannot
  be printed are written by code point;
* `quotedList` : quoted texts in brackets, separated by commas.
-/

namespace AccountSecurity.Text

/-- The quote that a text is put between. -/
def quoteFor (s : List Char) : Char := if '\'' ∈ s ∧ '"' ∉ s then '"' else '\''

/-- The code point of a character that is not shown, in the shortest of three escape forms. -/
def codePointEscape (c : Char) : List Char :=
  let n := c.toNat
  if n < 0x100 then '\\' :: 'x' :: hexDigits 2 n
  else if n < 0x10000 then '\\' :: 'u' :: hexDigits 4 n
  else '\\' :: 'U' :: hexDigits 8 n

/-- A character as it stands between quotes. -/
def quotedChar (quote c : Char) : List Char :=
  if c = quote ∨ c = '\\' then ['\\', c]
  else if c = '\n' then ['\\', 'n']
  else if c = '\r' then ['\\', 'r']
  else if c = '\t' then ['\\', 't']
  else if isPrintable c then [c]
  else codePointEscape c

/-- A text between quotes. -/
def quoted (s : String) : String :=
  let quote := quoteFor s.toList
  String.ofList (quote :: s.toList.flatMap (quotedChar quote) ++ [quote])

/-- Quoted texts in brackets. -/
def quotedList (items : List String) : String :=
  "[" ++ String.intercalate ", " (items.map quoted) ++ "]"

end AccountSecurity.Text
