import AccountSecurity.Json
import AccountSecurity.Table

/-!
# Reading JSON texts

`Json.read?` reads a text that holds one value. `NaN`, `Infinity` and `-Infinity` are read as numbers, and of
two fields of one name the later has the value and the earlier the place.

* `readString` : the characters of a text up to its closing quote;
* `readNumber?` : a number, which has a fraction or an exponent or is whole;
* `readValue` : a value, and the rest of the text. The fuel bounds the values that are read.
-/

namespace AccountSecurity.Json

/-- A blank between the parts of a value. -/
def isGap (c : Char) : Bool := c == ' ' || c == '\n' || c == '\t' || c == '\r'

/-- The text from its first character that is no blank. -/
def skipGap (s : List Char) : List Char := s.dropWhile isGap

/-! ## Texts -/

/-- The value of a hexadecimal digit in either case. -/
def hexDigitValue? (c : Char) : Option Nat :=
  if c.isDigit then some (c.toNat - '0'.toNat)
  else if 'a' ≤ c ∧ c ≤ 'f' then some (c.toNat - 'a'.toNat + 10)
  else if 'A' ≤ c ∧ c ≤ 'F' then some (c.toNat - 'A'.toNat + 10)
  else none

/-- The number that four hexadecimal digits write, and what follows them. -/
def readUnit? : List Char → Option (Nat × List Char)
  | a :: b :: c :: d :: rest => do
    let n := 4096 * (← hexDigitValue? a) + 256 * (← hexDigitValue? b)
    return (n + 16 * (← hexDigitValue? c) + (← hexDigitValue? d), rest)
  | _ => none

/-- A character written as one unit of 16 bits or as two; what follows it comes with it. -/
def readEscapedUnit? (s : List Char) : Option (Char × List Char) := do
  let (high, rest) ← readUnit? s
  if 0xD800 ≤ high ∧ high < 0xDC00 then
    match rest with
    | '\\' :: 'u' :: more =>
      let (low, after) ← readUnit? more
      if 0xDC00 ≤ low ∧ low < 0xE000 then
        return (Char.ofNat (0x10000 + 0x400 * (high - 0xD800) + (low - 0xDC00)), after)
      else return ('\uFFFD', rest)
    | _ => return ('\uFFFD', rest)
  else if 0xDC00 ≤ high ∧ high < 0xE000 then return ('\uFFFD', rest)
  else return (Char.ofNat high, rest)

/-- The character that a letter stands for behind a backslash. -/
def escapedLetter? : Char → Option Char
  | '"' => some '"'
  | '\\' => some '\\'
  | '/' => some '/'
  | 'b' => some '\x08'
  | 'f' => some '\x0c'
  | 'n' => some '\n'
  | 'r' => some '\r'
  | 't' => some '\t'
  | _ => none

/-- The characters of a text up to its closing quote, and what follows it; `before` are those in front, latest
first. -/
def readString : (fuel : Nat) → (before : List Char) → List Char → Option (List Char × List Char)
  | 0, _, _ => none
  | fuel + 1, before, s =>
    match s with
    | [] => none
    | '"' :: rest => some (before.reverse, rest)
    | '\\' :: 'u' :: rest =>
      match readEscapedUnit? rest with
      | some (c, rest) => readString fuel (c :: before) rest
      | none => none
    | '\\' :: letter :: rest =>
      match escapedLetter? letter with
      | some c => readString fuel (c :: before) rest
      | none => none
    | c :: rest => readString fuel (c :: before) rest

/-! ## Numbers -/

/-- The value of a run of digits. -/
def digitsValue (digits : List Char) : Nat :=
  Text.ofDigits (digits.map fun c => c.toNat - '0'.toNat)

/-- The digits behind a point, if there is one, and what follows them. -/
def readFraction : List Char → Option (List Char) × List Char
  | '.' :: rest => (some (rest.takeWhile Char.isDigit), rest.dropWhile Char.isDigit)
  | rest => (none, rest)

/-- The number behind an `e`, if there is one, and what follows it. -/
def readExponent : List Char → Option Int × List Char
  | [] => (none, [])
  | e :: rest =>
    if e = 'e' ∨ e = 'E' then
      let (negative, rest) := match rest with
        | '-' :: rest => (true, rest)
        | '+' :: rest => (false, rest)
        | rest => (false, rest)
      let size : Int := digitsValue (rest.takeWhile Char.isDigit)
      (some (if negative then -size else size), rest.dropWhile Char.isDigit)
    else (none, e :: rest)

/-- An unsigned number, and what follows it. -/
def readUnsigned? (negative : Bool) (s : List Char) : Option (Json × List Char) :=
  let whole := s.takeWhile Char.isDigit
  if whole.isEmpty then none
  else
    let (fraction, rest) := readFraction (s.dropWhile Char.isDigit)
    let (exponent, rest) := readExponent rest
    let digits := digitsValue (whole ++ fraction.getD [])
    match fraction, exponent with
    | none, none => some (.int (if negative then -(digits : Int) else digits), rest)
    | _, _ =>
      some (ofDecimal negative digits (exponent.getD 0 - (fraction.getD []).length), rest)

/-- What follows a word, if the text begins with it. -/
def afterWord? : (word s : List Char) → Option (List Char)
  | [], rest => some rest
  | c :: word, d :: rest => if c = d then afterWord? word rest else none
  | _ :: _, [] => none

/-- The values that are written as words. -/
def words : List (String × Json) :=
  [("null", .null), ("true", .bool true), ("false", .bool false), ("NaN", .extreme .undefined),
   ("Infinity", .extreme .infinite), ("-Infinity", .extreme .negativeInfinite)]

/-- A word or a number, and what follows it. -/
def readAtom? (s : List Char) : Option (Json × List Char) :=
  match words.findSome? fun (word, value) => (afterWord? word.toList s).map fun rest => (value, rest) with
  | some found => some found
  | none =>
    match s with
    | '-' :: rest => readUnsigned? true rest
    | rest => readUnsigned? false rest

/-! ## Values -/

mutual

/-- A value, and the rest of the text. -/
def readValue : (fuel : Nat) → List Char → Option (Json × List Char)
  | 0, _ => none
  | fuel + 1, s =>
    match skipGap s with
    | '"' :: rest => do
      let (cs, rest) ← readString (rest.length + 1) [] rest
      return (.string (String.ofList cs), rest)
    | '[' :: rest => do
      let (items, rest) ← readItems fuel (skipGap rest)
      return (.array items, rest)
    | '\x7b' :: rest => do
      let (fields, rest) ← readFields fuel Table.empty (skipGap rest)
      return (.object fields.entries, rest)
    | rest => readAtom? rest

/-- The values of a list up to its end; a comma may stand in front of each. -/
def readItems : (fuel : Nat) → List Char → Option (List Json × List Char)
  | 0, _ => none
  | fuel + 1, s =>
    match s with
    | ']' :: rest => some ([], rest)
    | ',' :: rest => readItems fuel (skipGap rest)
    | s => do
      let (item, rest) ← readValue fuel s
      let (items, rest) ← readItems fuel (skipGap rest)
      return (item :: items, rest)

/-- The fields of an object up to its end, put to those in front of them. -/
def readFields : (fuel : Nat) → Table Json → List Char → Option (Table Json × List Char)
  | 0, _, _ => none
  | fuel + 1, fields, s =>
    match s with
    | '\x7d' :: rest => some (fields, rest)
    | ',' :: rest => readFields fuel fields (skipGap rest)
    | '"' :: rest => do
      let (name, rest) ← readString (rest.length + 1) [] rest
      match skipGap rest with
      | ':' :: rest =>
        let (value, rest) ← readValue fuel rest
        readFields fuel (fields.put (String.ofList name) value) (skipGap rest)
      | _ => none
    | _ => none

end

/-- Reads a text that holds one value. -/
def read? (text : String) : Option Json := do
  let s := text.toList
  let (value, rest) ← readValue (2 * s.length + 2) s
  if (skipGap rest).isEmpty then return value else none

end AccountSecurity.Json
