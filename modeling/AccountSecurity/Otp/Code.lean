import AccountSecurity.Error.Failure
import AccountSecurity.Number.Double
import AccountSecurity.Settings

/-!
# SMS codes

* `otpBound` : the bound below which numbers are drawn;
* `otpCode` : the code of a number below the bound, with zeros in front up to the length of the codes;
* `drawnCode` : the code of any drawn number, or why there is none;
* `otpMessage` : the text of the message, in English or Spanish by the calling code of the number.
-/

namespace AccountSecurity

/-- Codes of `length` digits are drawn below this bound. -/
def otpBound (length : Int) : Nat := Nat.pow 10 length.toNat

/-- The code of a number. -/
def otpCode (length : Int) (n : Nat) : String := String.ofList (Text.padded length.toNat n)

/-- Further powers `10 ^ -places` are zero in double precision. -/
def maxPlaces : Nat := 323

/-- Why no number is drawn below `10 ^ -places`: it is a fraction, or it is rounded to zero, or `places` itself is too
large for double precision. -/
def fractionFault (places : Nat) : Fault :=
  if Nat.pow 2 1024 ≤ (Double.nearest places 1).floor then .numberRange
  else if maxPlaces < places then .value .emptyRange
  else .notAvailable

/-- The code of a drawn number. A number with too many digits has no text, and no number is drawn for a length below
zero, under which the bound is no whole number. -/
def drawnCode (length : Int) (draw : Nat) : Except Fault String :=
  if length < 0 then .error (fractionFault (-length).toNat)
  else
    let n := draw % otpBound length
    if Text.maxIntegerDigits < (Text.decimal n).length then .error (.value (.tooManyDigits none))
    else .ok (otpCode length n)

/-- The number begins with one of the calling codes. -/
def OtpConfig.prefersEnglish (config : OtpConfig) (phoneNumber : String) : Bool :=
  config.englishCallingCodes.any fun code => code.toList.isPrefixOf phoneNumber.toList

/-- The message that carries a code to a phone number. -/
def otpMessage (config : OtpConfig) (phoneNumber code : String) : String :=
  let minutes := Text.integerText config.ttlMinutes
  if config.prefersEnglish phoneNumber then
    "Your " ++ config.appName ++ " OTP code is: " ++ code ++
      ". This code will expire in " ++ minutes ++ " minutes."
  else
    "Su código OTP de " ++ config.appName ++ " es: " ++ code ++
      ". Este código expirará en " ++ minutes ++ " minutos."

end AccountSecurity
