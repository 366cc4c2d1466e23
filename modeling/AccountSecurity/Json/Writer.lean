import AccountSecurity.Json

/-!
# Writing JSON texts

`Json.text` writes a value without blanks. Quotes, backslashes and control characters of texts are escaped, and
all other characters stand for themselves.
-/

namespace AccountSecurity.Json

/-- A character of a text. -/
def escapedChar (c : Char) : List Char :=
  if c = '"' ∨ c = '\\' then ['\\', c]
  else if c.toNat < 0x20 then '\\' :: 'u' :: Text.hexDigits 4 c.toNat
  else [c]

/-- A text between quotes. -/
def stringText (s : String) : String :=
  "\"" ++ String.ofList (s.toList.flatMap escapedChar) ++ "\""

mutual

/-- The text of a value. -/
def text : Json → String
  | .null => "null"
  | .bool true => "true"
  | .bool false => "false"
  | .number mantissa places => numberText mantissa places
  | .extreme .undefined => "NaN"
  | .extreme .infinite => "Infinity"
  | .extreme .negativeInfinite => "-Infinity"
  | .string value => stringText value
  | .array items => "[" ++ String.intercalate "," (itemTexts items) ++ "]"
  | .object fields => "\x7b" ++ String.intercalate "," (fieldTexts fields) ++ "\x7d"

/-- The texts of the values of a list. -/
def itemTexts : List Json → List String
  | [] => []
  | item :: rest => text item :: itemTexts rest

/-- The texts of the fields of an object. -/
def fieldTexts : List (String × Json) → List String
  | [] => []
  | (name, value) :: rest => (stringText name ++ ":" ++ text value) :: fieldTexts rest

end

end AccountSecurity.Json
