import AccountSecurity.Text.Blank
import AccountSecurity.Text.Digit

/-!
# Integers in free text

`readInteger?` reads a decimal integer the lenient way: blanks around it, one sign, digits of any
script and single low lines between digits are accepted; more than 4300 digits are refused.

`decimal` and `padded` write natural numbers.
-/

namespace AccountSecurity.Text

/-- An integer may not have more digits than this. -/
def maxIntegerDigits : Nat := 4300

/-- A text that is a run of digits with single low lines between them, as the digits' values. -/
def digitValues? : List Char → Option (List Nat)
  | [] => none
  | [c] => (decimalValue? c).map fun d => [d]
  | c :: '_' :: rest => do return (← decimalValue? c) :: (← digitValues? rest)
  | c :: rest => do return (← decimalValue? c) :: (← digitValues? rest)

/-- The number whose decimal digits are given, most significant first. -/
def ofDigits (digits : List Nat) : Nat := digits.foldl (fun n d => 10 * n + d) 0

/-- Reads an unsigned integer. -/
def readNatural? (s : List Char) : Option Nat := do
  let digits ← digitValues? s
  if digits.length ≤ maxIntegerDigits then return ofDigits digits else none

/-- The blanks accepted around an integer; the information separators are not among them. -/
def isIntegerBlank (c : Char) : Bool := isBlank c && !(0x1C ≤ c.toNat && c.toNat ≤ 0x1F)

/-- Reads an integer with an optional sign and blanks around it. -/
def readInteger? (s : String) : Option Int :=
  let body := ((s.toList.dropWhile isIntegerBlank).reverse.dropWhile isIntegerBlank).reverse
  match body with
  | '-' :: rest => (readNatural? rest).map fun n => -(n : Int)
  | '+' :: rest => (readNatural? rest).map fun n => (n : Int)
  | rest => (readNatural? rest).map fun n => (n : Int)

/-- The decimal digits of a natural number. -/
def decimal (n : Nat) : List Char := Nat.toDigits 10 n

/-- The decimal digits of `n`, with zeros in front up to `width` characters. -/
def padded (width n : Nat) : List Char :=
  List.replicate (width - (decimal n).length) '0' ++ decimal n

/-- The decimal text of an integer. -/
def integerText (n : Int) : String :=
  match n with
  | .ofNat n => String.ofList (decimal n)
  | .negSucc n => String.ofList ('-' :: decimal (n + 1))

end AccountSecurity.Text
