import AccountSecurity.Number.Decimal
import AccountSecurity.Text.Quoted

/-!
# JSON values

Request bodies, stored records and the free part of an audit event are JSON values.

* `Json.field?` : the value of a field of an object;
* `Json.ofDecimal` : a number with a fraction or an exponent, within the range of double precision;
* `Json.isTruthy` : the reading of any value as a flag, under which empty and zero values are false;
* `Json.isFinite` : no number within the value is undefined or infinite;
* `Json.shown` : a value as it is shown within a message.
-/

namespace AccountSecurity

/-- What stands in for a number where there is none or where it is out of range. -/
inductive Extreme where
  | undefined
  | infinite
  | negativeInfinite
deriving DecidableEq, Repr

/-- A JSON value; a number is `mantissa / 10 ^ places`. -/
inductive Json where
  | null
  | bool (value : Bool)
  | number (mantissa : Int) (places : Nat)
  | extreme (value : Extreme)
  | string (value : String)
  | array (items : List Json)
  | object (fields : List (String × Json))

namespace Json

instance : Inhabited Json := ⟨.null⟩

/-! ## Equality -/

mutual

/-- Decides whether two values are equal. -/
def decideEq : (a b : Json) → Decidable (a = b)
  | .null, b => match b with
    | .null => isTrue rfl
    | .bool _ | .number _ _ | .extreme _ | .string _ | .array _ | .object _ => isFalse nofun
  | .bool x, b => match b with
    | .bool y => decidable_of_iff (x = y) (by simp)
    | .null | .number _ _ | .extreme _ | .string _ | .array _ | .object _ => isFalse nofun
  | .number m p, b => match b with
    | .number n q => decidable_of_iff (m = n ∧ p = q) (by simp)
    | .null | .bool _ | .extreme _ | .string _ | .array _ | .object _ => isFalse nofun
  | .extreme x, b => match b with
    | .extreme y => decidable_of_iff (x = y) (by simp)
    | .null | .bool _ | .number _ _ | .string _ | .array _ | .object _ => isFalse nofun
  | .string x, b => match b with
    | .string y => decidable_of_iff (x = y) (by simp)
    | .null | .bool _ | .number _ _ | .extreme _ | .array _ | .object _ => isFalse nofun
  | .array xs, b => match b with
    | .array ys => @decidable_of_iff _ (xs = ys) (by simp) (decideEqItems xs ys)
    | .null | .bool _ | .number _ _ | .extreme _ | .string _ | .object _ => isFalse nofun
  | .object xs, b => match b with
    | .object ys => @decidable_of_iff _ (xs = ys) (by simp) (decideEqFields xs ys)
    | .null | .bool _ | .number _ _ | .extreme _ | .string _ | .array _ => isFalse nofun

/-- Decides whether two lists are equal. -/
def decideEqItems : (xs ys : List Json) → Decidable (xs = ys)
  | [], [] => isTrue rfl
  | [], _ :: _ => isFalse nofun
  | _ :: _, [] => isFalse nofun
  | x :: xs, y :: ys =>
    @decidable_of_iff _ (x = y ∧ xs = ys) (by simp)
      (@instDecidableAnd _ _ (decideEq x y) (decideEqItems xs ys))

/-- Decides whether two lists of fields are equal. -/
def decideEqFields : (xs ys : List (String × Json)) → Decidable (xs = ys)
  | [], [] => isTrue rfl
  | [], _ :: _ => isFalse nofun
  | _ :: _, [] => isFalse nofun
  | (k, x) :: xs, (l, y) :: ys =>
    @decidable_of_iff _ (k = l ∧ x = y ∧ xs = ys) (by simp [and_assoc])
      (@instDecidableAnd _ _ _
        (@instDecidableAnd _ _ (decideEq x y) (decideEqFields xs ys)))

end

instance : DecidableEq Json := decideEq

/-! ## Making and reading values -/

/-- A whole number. -/
def int (n : Int) : Json := .number n 0

/-- The number `± digits · 10 ^ shift`, unless double precision has no number as large, or none but zero as
small. -/
def ofDecimal (negative : Bool) (digits : Nat) (shift : Int) : Json :=
  let magnitude := (Text.decimal digits).length + shift
  if digits = 0 ∨ magnitude < -330 then .number 0 1
  else if 310 < magnitude then .extreme (if negative then .negativeInfinite else .infinite)
  else
    let top := digits * Nat.pow 10 shift.toNat
    let bottom := Nat.pow 10 (-shift).toNat
    if top * Nat.pow 2 1075 ≤ bottom then .number 0 1
    else if (Nat.pow 2 1024 - Nat.pow 2 970) * bottom ≤ top then
      .extreme (if negative then .negativeInfinite else .infinite)
    else
      let sign : Int := if negative then -1 else 1
      if 0 ≤ shift then .number (sign * (10 * top : Nat)) 1 else .number (sign * digits) (-shift).toNat

/-- The text, or null. -/
def optionalString : Option String → Json
  | some s => .string s
  | none => .null

/-- The value of a field of an object; a value of another kind has no fields. -/
def field? (name : String) : Json → Option Json
  | .object fields => fields.lookup name
  | _ => none

/-- Everything is true but null, false, zero and the empty text, list and object. -/
def isTruthy : Json → Bool
  | .null => false
  | .bool value => value
  | .number mantissa _ => mantissa != 0
  | .extreme _ => true
  | .string value => value != ""
  | .array items => !items.isEmpty
  | .object fields => !fields.isEmpty

mutual

/-- All numbers within the value are in range. -/
def isFinite : Json → Bool
  | .null | .bool _ | .number _ _ | .string _ => true
  | .extreme _ => false
  | .array items => areFinite items
  | .object fields => fieldsAreFinite fields

/-- All numbers within the values of a list are in range. -/
def areFinite : List Json → Bool
  | [] => true
  | item :: rest => isFinite item && areFinite rest

/-- All numbers within the fields of an object are in range. -/
def fieldsAreFinite : List (String × Json) → Bool
  | [] => true
  | (_, value) :: rest => isFinite value && fieldsAreFinite rest

end

/-! ## Texts -/

/-- A decimal number with `places` digits behind the point. -/
def numberText (mantissa : Int) (places : Nat) : String :=
  if places = 0 then Text.integerText mantissa
  else
    let digits := Text.padded (places + 1) mantissa.natAbs
    let whole := digits.length - places
    String.ofList ((if mantissa < 0 then ['-'] else []) ++ digits.take whole ++ '.' :: digits.drop whole)

/-- A number within a message: a whole one by its digits, any other one as a double. -/
def shownNumber (mantissa : Int) (places : Nat) : String :=
  if places = 0 then Text.integerText mantissa
  else (if mantissa < 0 then "-" else "") ++ (Double.nearest mantissa.natAbs (Nat.pow 10 places)).text

mutual

/-- The value within a message: texts are quoted, and null and the flags are words. -/
def shown : Json → String
  | .null => "None"
  | .bool true => "True"
  | .bool false => "False"
  | .number mantissa places => shownNumber mantissa places
  | .extreme .undefined => "nan"
  | .extreme .infinite => "inf"
  | .extreme .negativeInfinite => "-inf"
  | .string value => Text.quoted value
  | .array items => "[" ++ String.intercalate ", " (shownItems items) ++ "]"
  | .object fields => "\x7b" ++ String.intercalate ", " (shownFields fields) ++ "\x7d"

/-- The values of a list. -/
def shownItems : List Json → List String
  | [] => []
  | item :: rest => shown item :: shownItems rest

/-- The fields of an object, each with its name. -/
def shownFields : List (String × Json) → List String
  | [] => []
  | (name, value) :: rest => (Text.quoted name ++ ": " ++ shown value) :: shownFields rest

end

/-- The value as a message of its own: a text stands for itself. -/
def plain : Json → String
  | .string value => value
  | value => value.shown

end Json

end AccountSecurity
